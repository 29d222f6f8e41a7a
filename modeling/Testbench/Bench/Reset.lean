import Testbench.Bench.Basic

/-! Bringing a design out of reset. -/

namespace Testbench

/-- The edges of the host clock that a design needs in reset. -/
def resetEdges : Nat := 3

/-- The cycles in which those edges have to come. -/
def maxResetCycles : Nat := 1 <<< 20

namespace Bench

variable {D H M : Type} [Design D] [Host H] [Memory M]

/-- Settles the design in reset, and hands back the inconsistency it found, if any. -/
def settleReset (bench : Bench D H M) : Option EvaluationFault × Bench D H M :=
  let (fault, design) := Design.settle true bench.design
  (fault, { bench with design }.call (.settle true fault))

/-- Commits the design in reset. -/
def commitReset (bench : Bench D H M) : Bench D H M :=
  { bench with design := Design.commit true bench.design }.call (.commit true)

/--
Clocks a design in reset until the edges still missing have come.

Returns the number of cycles clocked, unless the design fails or the cycles left run out.
-/
def resetCycles (missing clocked : Nat) :
    (left : Nat) → Bench D H M → Except SetupFault Nat × Bench D H M
  | 0, bench =>
    if missing = 0 then (.ok clocked, bench) else (.error (.resetTimeout clocked), bench)
  | left + 1, bench =>
    if missing = 0 then (.ok clocked, bench)
    else
      match bench.settleReset with
      -- A cycle that fails to settle is not committed.
      | (some fault, failed) => (.error (.resetEvaluation fault), failed)
      | (none, settled) =>
        let committed := settled.commitReset
        -- An edge counts in the cycle at whose end it is seen.
        let edge := (HostPins.hostEdge committed.design).toNat
        committed.resetCycles (missing - edge) (clocked + 1) left

/-- Holds the host link idle. -/
def holdIdle (bench : Bench D H M) : Bench D H M :=
  { bench with
    design := Host.driveIdle bench.design
    journal := bench.journal.callAll Host.idleCalls }

/--
Holds the host link idle and clocks the design in reset.

Returns the number of cycles clocked.
-/
def reset (bench : Bench D H M) : Except SetupFault Nat × Bench D H M :=
  match bench.holdIdle.resetCycles resetEdges 0 maxResetCycles with
  | (.error fault, failed) => (.error fault, failed)
  | (.ok cycles, released) => (.ok cycles, released.remark (.resetReleased cycles))

end Bench

end Testbench
