import Testbench.Proofs.Bench.Delivery
import Testbench.Proofs.Bench.Resetting
import Mathlib.Data.Nat.Find
import Mathlib.Logic.Function.Iterate
import Mathlib.Order.Bounds.Defs
import Mathlib.Order.Monotone.Basic
import Mathlib.Tactic.ByContra

/-! A reset clocks a design for as long as its host clock needs, and touches nothing else. -/

namespace Testbench.Bench

section Clocking

variable {D H M : Type} [Design D]

/-- Clocks the design in reset once. -/
def clockReset (bench : Bench D H M) : Bench D H M :=
  bench.settleReset.2.commitReset

/-- The bench after a number of cycles in reset, in which the host link is held idle. -/
def inReset (cycles : Nat) (bench : Bench D H M) : Bench D H M :=
  clockReset^[cycles] bench.holdIdle

/-- The inconsistency that the design finds in a cycle in reset, if any. -/
def faultInReset (cycle : Nat) (bench : Bench D H M) : Option EvaluationFault :=
  (bench.inReset cycle).settleReset.1

/-- The edges of the host clock, each seen after a commit, in the first cycles in reset. -/
def edgesInReset (cycles : Nat) (bench : Bench D H M) : Nat :=
  (List.range cycles).countP fun cycle => HostPins.hostEdge (bench.inReset (cycle + 1)).design

/-- The design settles in the first cycles in reset. -/
def SettlesInReset (cycles : Nat) (bench : Bench D H M) : Prop :=
  ∀ cycle < cycles, bench.faultInReset cycle = none

/-- The edges needed come in time, in a number of cycles that all settle and in no fewer. -/
structure ReleasedAfter (cycles : Nat) (bench : Bench D H M) : Prop where
  within : cycles ≤ maxResetCycles
  least : IsLeast {count | resetEdges ≤ bench.edgesInReset count} cycles
  settles : bench.SettlesInReset cycles

/-- The design fails in a cycle in reset, the first to fail, before the edges needed have come. -/
structure FailsInReset (cycle : Nat) (fault : EvaluationFault) (bench : Bench D H M) : Prop where
  within : cycle < maxResetCycles
  found : bench.faultInReset cycle = some fault
  settles : bench.SettlesInReset cycle
  missing : bench.edgesInReset cycle < resetEdges

/-- The design settles in all cycles in reset, but the edges needed do not come. -/
structure TimesOutInReset (bench : Bench D H M) : Prop where
  settles : bench.SettlesInReset maxResetCycles
  missing : bench.edgesInReset maxResetCycles < resetEdges

/-- One more cycle in reset clocks the design once more. -/
theorem inReset_succ (cycles : Nat) (bench : Bench D H M) :
    bench.inReset (cycles + 1) = (bench.inReset cycles).clockReset :=
  Function.iterate_succ_apply' clockReset cycles bench.holdIdle

/-- One more cycle in reset counts if the host clock has an edge at its end. -/
theorem edgesInReset_succ (cycles : Nat) (bench : Bench D H M) :
    bench.edgesInReset (cycles + 1) = bench.edgesInReset cycles +
      (HostPins.hostEdge (bench.inReset (cycles + 1)).design).toNat := by
  rw [edgesInReset, List.range_succ, List.countP_append]
  -- The new cycle is the last one counted: it adds one or nothing.
  cases edge : HostPins.hostEdge (bench.inReset (cycles + 1)).design <;>
    simp [edgesInReset, edge]

/-- The edges only become more. -/
theorem edgesInReset_mono (bench : Bench D H M) :
    Monotone fun cycles => bench.edgesInReset cycles := by
  apply monotone_nat_of_le_succ
  intro cycles
  -- It is enough that no single cycle takes an edge back.
  rw [edgesInReset_succ]
  exact Nat.le_add_right _ _

/-- No further cycle is clocked when no edge is missing. -/
theorem resetCycles_of_enough (clocked left : Nat) (bench : Bench D H M) :
    bench.resetCycles 0 clocked left = (.ok clocked, bench) := by
  -- Both equations of the recursion ask first whether an edge is missing.
  cases left <;> rfl

/-- The attempt is given up when edges are missing and no cycle is left. -/
theorem resetCycles_of_none_left {missing : Nat} (needed : missing ≠ 0) (clocked : Nat)
    (bench : Bench D H M) :
    bench.resetCycles missing clocked 0 = (.error (.resetTimeout clocked), bench) :=
  if_neg needed

/-- A cycle that fails to settle is the last one. -/
theorem resetCycles_of_fault {missing : Nat} (needed : missing ≠ 0) {bench : Bench D H M}
    {fault : EvaluationFault} (found : bench.settleReset.1 = some fault) (clocked left : Nat) :
    bench.resetCycles missing clocked (left + 1) =
      (.error (.resetEvaluation fault), bench.settleReset.2) := by
  have answer : bench.settleReset = (some fault, bench.settleReset.2) := Prod.ext found rfl
  -- The answer decides the branch that gives up, with the bench as it settled.
  rw [resetCycles, if_neg needed, answer]

/-- A cycle that settles is committed, and takes off the edge seen at its end. -/
theorem resetCycles_of_settled {missing : Nat} (needed : missing ≠ 0) {bench : Bench D H M}
    (sound : bench.settleReset.1 = none) (clocked left : Nat) :
    bench.resetCycles missing clocked (left + 1) =
      bench.clockReset.resetCycles
        (missing - (HostPins.hostEdge bench.clockReset.design).toNat) (clocked + 1) left := by
  have answer : bench.settleReset = (none, bench.settleReset.2) := Prod.ext sound rfl
  -- The answer decides the branch that commits, and goes on with one cycle fewer.
  rw [resetCycles, if_neg needed, answer]
  rfl

/-- As long as the design settles and edges are missing, one cycle follows on another. -/
theorem resetCycles_of_settles {cycles : Nat} {bench : Bench D H M}
    (settles : bench.SettlesInReset cycles)
    (missing : ∀ earlier < cycles, bench.edgesInReset earlier < resetEdges) (left : Nat) :
    bench.holdIdle.resetCycles resetEdges 0 (left + cycles) =
      (bench.inReset cycles).resetCycles (resetEdges - bench.edgesInReset cycles) cycles left := by
  -- The cycles so far leave one cycle more, and that is the last one of the longer stretch.
  induction cycles generalizing left with
  | zero => rfl
  | succ cycles ih =>
    have earlier := ih (fun cycle before => settles cycle (Nat.lt_succ_of_lt before))
      (fun cycle before => missing cycle (Nat.lt_succ_of_lt before)) (left + 1)
    have needed : resetEdges - bench.edgesInReset cycles ≠ 0 :=
      Nat.sub_ne_zero_of_lt (missing cycles (Nat.lt_succ_self cycles))
    have sound : (bench.inReset cycles).settleReset.1 = none :=
      settles cycles (Nat.lt_succ_self cycles)
    calc bench.holdIdle.resetCycles resetEdges 0 (left + (cycles + 1))
        = bench.holdIdle.resetCycles resetEdges 0 (left + 1 + cycles) := by
          rw [Nat.add_right_comm, Nat.add_assoc]
      _ = (bench.inReset cycles).resetCycles (resetEdges - bench.edgesInReset cycles) cycles
            (left + 1) := earlier
      _ = (bench.inReset (cycles + 1)).resetCycles
            (resetEdges - bench.edgesInReset (cycles + 1)) (cycles + 1) left := by
          rw [resetCycles_of_settled needed sound, edgesInReset_succ, inReset_succ, Nat.sub_sub]

/-- A reset goes on for a number of cycles within its limit, if nothing stops it in these. -/
theorem resetCycles_within {cycles : Nat} {bench : Bench D H M} (within : cycles ≤ maxResetCycles)
    (settles : bench.SettlesInReset cycles)
    (missing : ∀ earlier < cycles, bench.edgesInReset earlier < resetEdges) :
    bench.holdIdle.resetCycles resetEdges 0 maxResetCycles =
      (bench.inReset cycles).resetCycles (resetEdges - bench.edgesInReset cycles) cycles
        (maxResetCycles - cycles) := by
  -- The limit is split into the cycles that were clocked and those that are left.
  rw [← resetCycles_of_settles settles missing, Nat.sub_add_cancel within]

/-- Edges that are missing after some cycles were missing after fewer. -/
theorem missing_earlier {cycles : Nat} {bench : Bench D H M}
    (missing : bench.edgesInReset cycles < resetEdges) :
    ∀ earlier < cycles, bench.edgesInReset earlier < resetEdges :=
  -- Edges never become fewer, so an earlier count is at most the later one.
  fun _ before => (bench.edgesInReset_mono before.le).trans_lt missing

end Clocking

section Outcomes

variable {D H M : Type} [Design D]

/-- A design that sees its edges in time is released at once. -/
theorem ReleasedAfter.reset {cycles : Nat} {bench : Bench D H M}
    (released : bench.ReleasedAfter cycles) :
    bench.reset = (.ok cycles, (bench.inReset cycles).remark (.resetReleased cycles)) := by
  -- Before the least number of cycles, edges are missing.
  have missing : ∀ earlier < cycles, bench.edgesInReset earlier < resetEdges := by
    intro earlier before
    by_contra enough
    exact absurd (released.least.2 (not_lt.mp enough)) (not_le.mpr before)
  have none_missing : resetEdges - bench.edgesInReset cycles = 0 :=
    Nat.sub_eq_zero_of_le released.least.1
  rw [Bench.reset, resetCycles_within released.within released.settles missing, none_missing,
    resetCycles_of_enough]

/-- A design that fails in reset is not committed in that cycle. -/
theorem FailsInReset.reset {cycle : Nat} {fault : EvaluationFault} {bench : Bench D H M}
    (fails : bench.FailsInReset cycle fault) :
    bench.reset = (.error (.resetEvaluation fault), (bench.inReset cycle).settleReset.2) := by
  have needed : resetEdges - bench.edgesInReset cycle ≠ 0 := Nat.sub_ne_zero_of_lt fails.missing
  -- The failing cycle is within the limit, so at least one cycle is left.
  obtain ⟨left, counted⟩ := Nat.exists_eq_succ_of_ne_zero (Nat.sub_ne_zero_of_lt fails.within)
  rw [Bench.reset,
    resetCycles_within fails.within.le fails.settles (missing_earlier fails.missing), counted,
    resetCycles_of_fault needed fails.found]

/-- A design that settles but does not see its edges is clocked to the limit. -/
theorem TimesOutInReset.reset {bench : Bench D H M} (timesOut : bench.TimesOutInReset) :
    bench.reset = (.error (.resetTimeout maxResetCycles), bench.inReset maxResetCycles) := by
  have needed : resetEdges - bench.edgesInReset maxResetCycles ≠ 0 :=
    Nat.sub_ne_zero_of_lt timesOut.missing
  -- All cycles of the limit are used up, and an edge is missing even then.
  rw [Bench.reset,
    resetCycles_within le_rfl timesOut.settles (missing_earlier timesOut.missing), Nat.sub_self,
    resetCycles_of_none_left needed]

/-- A reset goes one of three ways. -/
theorem reset_cases (bench : Bench D H M) :
    (∃ cycles, bench.ReleasedAfter cycles) ∨ (∃ cycle fault, bench.FailsInReset cycle fault) ∨
      bench.TimesOutInReset := by
  -- The clocking ends where the edges have come, the design fails, or the limit is reached.
  let Ends := fun cycles => resetEdges ≤ bench.edgesInReset cycles ∨
    bench.faultInReset cycles ≠ none ∨ cycles = maxResetCycles
  have ends : ∃ cycles, Ends cycles := ⟨maxResetCycles, .inr (.inr rfl)⟩
  classical
  let last := Nat.find ends
  have within : last ≤ maxResetCycles := Nat.find_min' ends (.inr (.inr rfl))
  have settles : bench.SettlesInReset last := by
    intro cycle before
    by_contra found
    exact Nat.find_min ends before (.inr (.inl found))
  by_cases enough : resetEdges ≤ bench.edgesInReset last
  · -- The edges are counted first, so they may even come in the last cycle allowed.
    refine .inl ⟨last, within, ⟨enough, ?_⟩, settles⟩
    intro count counted
    exact Nat.find_min' ends (.inl counted)
  · have missing : bench.edgesInReset last < resetEdges := not_le.mp enough
    by_cases limit : last = maxResetCycles
    · refine .inr (.inr ⟨?_, ?_⟩)
      · rwa [limit] at settles
      · rwa [limit] at missing
    · -- Neither the edges nor the limit have ended the clocking, so it was the design.
      have failed : bench.faultInReset last ≠ none := by
        rcases Nat.find_spec ends with counted | failed | reached
        · exact absurd counted enough
        · exact failed
        · exact absurd reached limit
      obtain ⟨fault, found⟩ := Option.ne_none_iff_exists'.mp failed
      exact .inr (.inl ⟨last, fault, lt_of_le_of_ne within limit, found, settles, missing⟩)

/-- The answers of a reset, each with the way in which the reset has ended. -/
inductive Answers (bench : Bench D H M) : Except SetupFault Nat → Prop where
  | released {cycles : Nat} (released : bench.ReleasedAfter cycles) : Answers bench (.ok cycles)
  | failed {cycle : Nat} {fault : EvaluationFault} (fails : bench.FailsInReset cycle fault) :
    Answers bench (.error (.resetEvaluation fault))
  | timedOut (timesOut : bench.TimesOutInReset) :
    Answers bench (.error (.resetTimeout maxResetCycles))

/-- Every reset answers for the way in which it has ended. -/
theorem answers_reset (bench : Bench D H M) : bench.Answers bench.reset.1 := by
  -- A reset ends in one of three ways, and each fixes its answer.
  rcases bench.reset_cases with ⟨cycles, released⟩ | ⟨cycle, fault, fails⟩ | timesOut
  · simp only [released.reset, Answers.released released]
  · simp only [fails.reset, Answers.failed fails]
  · simp only [timesOut.reset, Answers.timedOut timesOut]

/-- Only a design that saw its edges in time is released. -/
theorem ReleasedAfter.of_reset {cycles : Nat} {bench : Bench D H M}
    (answer : bench.reset.1 = .ok cycles) : bench.ReleasedAfter cycles := by
  have answers := bench.answers_reset
  rw [answer] at answers
  -- The other two ways of ending answer with an error.
  cases answers with
  | released released => exact released

/-- Only a design that failed in reset is reported as failing. -/
theorem FailsInReset.of_reset {fault : EvaluationFault} {bench : Bench D H M}
    (answer : bench.reset.1 = .error (.resetEvaluation fault)) :
    ∃ cycle, bench.FailsInReset cycle fault := by
  have answers := bench.answers_reset
  rw [answer] at answers
  -- The cycle it failed in is not in the answer, so it is only known to exist.
  cases answers with
  | failed fails => exact ⟨_, fails⟩

/-- Only a design that was clocked to the limit is given up, and the limit is reported. -/
theorem TimesOutInReset.of_reset {cycles : Nat} {bench : Bench D H M}
    (answer : bench.reset.1 = .error (.resetTimeout cycles)) :
    cycles = maxResetCycles ∧ bench.TimesOutInReset := by
  have answers := bench.answers_reset
  rw [answer] at answers
  -- Given up means clocked to the limit, which is what is reported.
  cases answers with
  | timedOut timesOut => exact ⟨rfl, timesOut⟩

end Outcomes

section Calls

variable {D H M : Type} [Design D] [Host H] [Memory M]

/-- The calls of a number of cycles in reset that settle, after the host link was idled. -/
def resetCalls (cycles : Nat) : List Call :=
  Host.idleCalls ++ (List.replicate cycles [.settle true none, .commit true]).flatten

/-- The calls of one more cycle in reset come last. -/
theorem resetCalls_succ (cycles : Nat) :
    resetCalls (cycles + 1) = resetCalls cycles ++ [.settle true none, .commit true] := by
  -- The two calls of the new cycle stand behind the flattened earlier ones.
  rw [resetCalls, List.replicate_succ', List.flatten_concat, ← List.append_assoc, resetCalls]

/-- A bench settles its design in reset with one call. -/
theorem makes_settleReset (bench : Bench D H M) :
    Makes [.settle true bench.settleReset.1] bench bench.settleReset.2 :=
  .single ⟨_, rfl, rfl⟩ rfl

/-- In reset, a design that settles is idled, and then settled and committed in turn. -/
theorem makes_inReset {cycles : Nat} {bench : Bench D H M}
    (settles : bench.SettlesInReset cycles) :
    Makes (resetCalls cycles) bench (bench.inReset cycles) := by
  -- Induction on the cycles: idling makes the first calls, then each cycle makes two.
  induction cycles with
  | zero =>
    rw [resetCalls, List.replicate_zero, List.flatten_nil, List.append_nil]
    exact .of_performed (.call rfl (.single rfl)) rfl
  | succ cycles ih =>
    have before := ih fun cycle earlier => settles cycle (Nat.lt_succ_of_lt earlier)
    have settled := (bench.inReset cycles).makes_settleReset
    -- That the cycle settled is the answer which its call notes.
    rw [show (bench.inReset cycles).settleReset.1 = none from
      settles cycles (Nat.lt_succ_self cycles)] at settled
    have committed : Makes [.commit true] (bench.inReset cycles).settleReset.2
        (bench.inReset cycles).clockReset := .single rfl rfl
    rw [resetCalls_succ, inReset_succ]
    exact before.append (settled.append committed)

end Calls

section Inputs

variable {D H M : Type} [Design D] (held : HeldInputs D)

/-- The host inputs are idle in every cycle in reset. -/
theorem inputs_inReset (cycles : Nat) (bench : Bench D H M) :
    held.inputs (bench.inReset cycles).design = {} := by
  -- Idle at first, and held by both halves of every clock that follows.
  induction cycles with
  | zero =>
    have drives : (bench.inReset 0).design =
        HostPins.driveHostReady false (HostPins.driveHostIn false 0 bench.design) := rfl
    rw [drives, held.driveHostReady, held.driveHostIn]
  | succ cycles ih =>
    rw [inReset_succ, ← ih]
    exact (held.commit true _).trans (held.settle true _)

end Inputs

variable {D H M : Type} [Design D] [Host H] [Memory M]

/-- A reset that clocks the design for as long as it needs, and touches nothing but the design. -/
structure ClocksAsNeeded (bench : Bench D H M) : Prop where
  /-- The reset succeeds after the least number of cycles in which the edges needed come. -/
  released : ∀ cycles, bench.reset.1 = .ok cycles ↔ bench.ReleasedAfter cycles
  /-- It fails with the first inconsistency found before these edges have come. -/
  failed : ∀ fault, bench.reset.1 = .error (.resetEvaluation fault) ↔
    ∃ cycle, bench.FailsInReset cycle fault
  /-- In all other cases it is given up at the limit. -/
  timedOut : (∀ cycles, ¬ bench.ReleasedAfter cycles) →
    (∀ cycle fault, ¬ bench.FailsInReset cycle fault) →
      bench.reset.1 = .error (.resetTimeout maxResetCycles)
  /-- Every cycle up to the release settles and commits the design. -/
  releases : ∀ cycles, bench.reset.1 = .ok cycles →
    Makes (resetCalls cycles) bench bench.reset.2
  /-- A cycle that fails to settle is not committed. -/
  fails : ∀ cycle fault, bench.FailsInReset cycle fault →
    Makes (resetCalls cycle ++ [.settle true (some fault)]) bench bench.reset.2
  /-- All cycles allowed are clocked before the attempt is given up. -/
  givesUp : ∀ cycles, bench.reset.1 = .error (.resetTimeout cycles) →
    cycles = maxResetCycles ∧ Makes (resetCalls maxResetCycles) bench bench.reset.2
  /-- The counter, the memories, the link, the detector, the host and all else stay as they are. -/
  untouched : ∃ design journal, bench.reset.2 = { bench with design, journal }
  /-- The host inputs are idle before and after settling in every cycle in reset. -/
  idle : ∀ (held : HeldInputs D) (cycle : Nat),
    held.inputs (bench.inReset cycle).design = {} ∧
      held.inputs (bench.inReset cycle).settleReset.2.design = {}
  /-- They are left idle. -/
  leftIdle : ∀ held : HeldInputs D, held.inputs bench.reset.2.design = {}

/-- Every reset clocks the design for exactly as long as it needs. -/
theorem clocksAsNeeded (bench : Bench D H M) : bench.ClocksAsNeeded := by
  constructor
  -- The answer tells in which of the three ways the reset has ended, and the other way round.
  case released => exact fun cycles => ⟨.of_reset, fun released => by rw [released.reset]⟩
  case failed =>
    exact fun fault => ⟨FailsInReset.of_reset, fun ⟨cycle, fails⟩ => by rw [fails.reset]⟩
  case timedOut =>
    intro unreleased sound
    rcases bench.reset_cases with ⟨cycles, released⟩ | ⟨cycle, fault, fails⟩ | timesOut
    · exact absurd released (unreleased cycles)
    · exact absurd fails (sound cycle fault)
    · rw [timesOut.reset]
  case releases =>
    intro cycles answer
    have released := ReleasedAfter.of_reset answer
    have made := makes_inReset released.settles
    rw [released.reset]
    -- The remark about the release is no call.
    exact ⟨made.noted, made.performed⟩
  case fails =>
    intro cycle fault fails
    have settled := (bench.inReset cycle).makes_settleReset
    rw [show (bench.inReset cycle).settleReset.1 = some fault from fails.found] at settled
    rw [fails.reset]
    exact (makes_inReset fails.settles).append settled
  case givesUp =>
    intro cycles answer
    obtain ⟨limit, timesOut⟩ := TimesOutInReset.of_reset answer
    refine ⟨limit, ?_⟩
    -- Given up, the bench is the one after the last cycle in reset.
    have left : bench.reset.2 = bench.inReset maxResetCycles := by rw [timesOut.reset]
    rw [left]
    exact makes_inReset timesOut.settles
  case untouched => exact bench.reset_snd_eq
  case idle =>
    intro held cycle
    have before := inputs_inReset held cycle bench
    exact ⟨before, (held.settle true _).trans before⟩
  case leftIdle => exact fun held => inputs_reset held bench

end Testbench.Bench
