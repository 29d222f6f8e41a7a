import Testbench.Proofs.Bench.Rounds

/-! A reset asks the design alone, which it only idles and clocks, whether it succeeds or not. -/

namespace Testbench

/-- A call idles the host link of a design, or clocks the design in reset. -/
def Call.inReset : Call → Bool
  | .driveHostIn valid word => !valid && word == 0
  | .driveHostReady ready => !ready
  | .settle reset _ => reset
  | .commit reset => reset
  | _ => false

/-- A call clocks the design. -/
def Call.clocks : Call → Bool
  | .settle .. | .commit _ => true
  | _ => false

/-- The design failed to come out of reset. -/
def SetupFault.ofReset : SetupFault → Bool
  | .resetTimeout _ | .resetEvaluation _ => true
  | _ => false

/-- The same design with other instructions to report. -/
@[reducible] def Design.reporting {D : Type} [design : Design D] (instruction : D → UInt32) :
    Design D :=
  { design with instruction }

/-- The same design with an inconsistency that it finds in every cycle. -/
@[reducible] def Design.failing {D : Type} [design : Design D] (fault : EvaluationFault) :
    Design D :=
  { design with settle := fun _ state => (some fault, state) }

namespace Bench

section Faults

variable {D H M : Type} [Design D]

/-- A reset changes the design, and leaves the host and the memories alone. -/
theorem parties_reset (bench : Bench D H M) :
    bench.reset.2.parties = { bench.parties with design := bench.reset.2.design } := by
  obtain ⟨_, _, same⟩ := bench.reset_snd_eq
  -- Of what a reset changes, the journal is no party.
  rw [same]
  rfl

/-- Clocking in reset fails with a fault of its own kind. -/
theorem ofReset_of_resetCycles {fault : SetupFault} (left : Nat) :
    ∀ (missing clocked : Nat) (bench : Bench D H M),
      (bench.resetCycles missing clocked left).1 = .error fault → fault.ofReset = true := by
  induction left with
  | zero =>
    -- The cycles are used up, which is a timeout unless no edge is missing.
    intro missing clocked bench failed
    unfold resetCycles at failed
    split at failed
    · cases failed
    · cases failed
      rfl
  | succ left ih =>
    intro missing clocked bench failed
    unfold resetCycles at failed
    split at failed
    · cases failed
    · -- The design fails to settle in this cycle, or the fault is found in a later one.
      split at failed
      · cases failed
        rfl
      · exact ih _ _ _ failed

/-- A reset fails with a fault of its own kind. -/
theorem ofReset_of_reset {bench failed : Bench D H M} {fault : SetupFault}
    (answer : bench.reset = (.error fault, failed)) : fault.ofReset = true := by
  unfold reset at answer
  -- Only a reset that was given up answers with a fault.
  split at answer
  · rename_i found left cycles
    cases answer
    exact ofReset_of_resetCycles maxResetCycles resetEdges 0 bench.holdIdle (by rw [cycles])
  · cases answer

end Faults

section Calls

variable {D H M : Type} [Design D] [Host H] [Memory M]

/-- Clocking a design in reset takes no other calls. -/
theorem makes_resetCycles (left missing clocked : Nat) (bench : Bench D H M) :
    ∃ calls, Makes calls bench (bench.resetCycles missing clocked left).2 ∧
      ∀ call ∈ calls, call.inReset = true := by
  -- Each half of a clock makes one call, behind those of the cycles before.
  apply resetCycles_preserves fun after : Bench D H M =>
    ∃ calls, Makes calls bench after ∧ ∀ call ∈ calls, call.inReset = true
  case settles =>
    rintro after ⟨calls, made, inReset⟩
    have settles : Makes [.settle true after.settleReset.1] after after.settleReset.2 :=
      .single ⟨_, rfl, rfl⟩ rfl
    refine ⟨_, made.append settles, List.forall_mem_append.mpr ⟨inReset, ?_⟩⟩
    exact List.forall_mem_singleton.mpr rfl
  case commits =>
    rintro after ⟨calls, made, inReset⟩
    have commits : Makes [.commit true] after after.commitReset := .single rfl rfl
    refine ⟨_, made.append commits, List.forall_mem_append.mpr ⟨inReset, ?_⟩⟩
    exact List.forall_mem_singleton.mpr rfl
  case before => exact ⟨[], .none rfl rfl, List.forall_mem_nil _⟩

/-- A reset takes no other calls, whether it succeeds or not. -/
theorem makes_reset (bench : Bench D H M) :
    ∃ calls, Makes calls bench bench.reset.2 ∧ ∀ call ∈ calls, call.inReset = true := by
  have idles : Makes Host.idleCalls bench bench.holdIdle :=
    .of_performed (.call rfl (.single rfl)) rfl
  obtain ⟨calls, clocks, inReset⟩ :=
    makes_resetCycles maxResetCycles resetEdges 0 bench.holdIdle
  have made := idles.append clocks
  refine ⟨Host.idleCalls ++ calls, ?_, ?_⟩
  · -- A reset that succeeds is remarked, which is no call.
    unfold reset
    split
    · rename_i fault failed answer
      rw [answer] at made
      exact made
    · rename_i cycles released answer
      rw [answer] at made
      exact ⟨made.noted, made.performed⟩
  · intro call member
    rcases List.mem_append.mp member with idle | clock
    · have held : ∀ call ∈ Host.idleCalls, call.inReset = true := by decide
      exact held call idle
    · exact inReset call clock

end Calls

section Reporting

variable {D H M : Type} [Design D]

/-- Which instructions a design reports does not matter to a reset. -/
theorem resetCycles_reporting (instruction : D → UInt32) (left : Nat) :
    ∀ (missing clocked : Nat) (bench : Bench D H M),
      @resetCycles D H M (.reporting instruction) missing clocked left bench =
        bench.resetCycles missing clocked left := by
  -- Induction on the cycles left: settling and committing do not read the instruction.
  induction left with
  | zero => exact fun _ _ _ => rfl
  | succ left ih =>
    intro missing clocked bench
    unfold resetCycles
    simp only [ih]
    rfl

/-- A reset turns out the same whichever instructions the design reports. -/
theorem reset_reporting (instruction : D → UInt32) (bench : Bench D H M) :
    @reset D H M (.reporting instruction) bench = bench.reset := by
  have idles : @holdIdle D H M (.reporting instruction) bench = bench.holdIdle := rfl
  unfold reset
  -- Idling and the clocks are the same, and the remark depends on them alone.
  rw [idles, resetCycles_reporting]

end Reporting

end Bench

end Testbench
