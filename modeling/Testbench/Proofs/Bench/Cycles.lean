import Testbench.Bench.Run

/-! Runs as sequences of cycles, each of which begins with the question whether to go on. -/

namespace Testbench.Bench

variable {D H M : Type} [Design D] [Host H] [Memory M]

/-- The bench once it was asked whether to go on, which may have told the host to finish. -/
def asked (bench : Bench D H M) : Bench D H M :=
  bench.mayContinue.2

/-- The bench after the first cycles of a run, when nothing stops it before. -/
def after (requests : Nat → Bool) : (cycles : Nat) → Bench D H M → Bench D H M
  | 0, bench => bench
  | cycles + 1, bench => (bench.after requests cycles).asked.step (requests cycles)

/-- The bench before a cycle, when it may be asked first whether to go on. -/
def ready (ask : Bool) (bench : Bench D H M) : Bench D H M :=
  if ask then bench.asked else bench

/--
The bench after some cycles, before each of which it may be asked whether to go on.

The answer does not matter, so cycles may follow on a reason to stop.
-/
def steps (asks requests : Nat → Bool) : (count : Nat) → Bench D H M → Bench D H M
  | 0, bench => bench
  | count + 1, bench =>
    ((bench.steps asks requests count).ready (asks count)).step (requests count)

/-- A run is a series of cycles before each of which the bench is asked. -/
theorem steps_eq_after (requests : Nat → Bool) (count : Nat) (bench : Bench D H M) :
    bench.steps (fun _ => true) requests count = bench.after requests count := by
  induction count with
  | zero => rfl
  -- The question that may be left out is asked before each cycle here.
  | succ count ih =>
    rw [steps, after, ih]
    rfl

/-- A run lasts for some cycles when there is no reason to stop before any of them. -/
def Lasts (requests : Nat → Bool) (cycles : Nat) (bench : Bench D H M) : Prop :=
  ∀ cycle < cycles, (bench.after requests cycle).mayContinue.1 = true

/-- A run ends after some cycles when it lasts for them and there is a reason to stop then. -/
def EndsAfter (requests : Nat → Bool) (cycles : Nat) (bench : Bench D H M) : Prop :=
  bench.Lasts requests cycles ∧ (bench.after requests cycles).mayContinue.1 = false

/-- A run that lasts for some cycles lasts for fewer as well. -/
theorem Lasts.mono {requests : Nat → Bool} {cycles fewer : Nat} {bench : Bench D H M}
    (lasts : bench.Lasts requests cycles) (less : fewer ≤ cycles) :
    bench.Lasts requests fewer :=
  -- Each of the fewer cycles is among those that the run lasts for.
  fun cycle earlier => lasts cycle (Nat.lt_of_lt_of_le earlier less)

/-- A run that lasts for some cycles and may go on then lasts for one more. -/
theorem Lasts.succ {requests : Nat → Bool} {cycles : Nat} {bench : Bench D H M}
    (lasts : bench.Lasts requests cycles)
    (going : (bench.after requests cycles).mayContinue.1 = true) :
    bench.Lasts requests (cycles + 1) := by
  -- The new cycle is the only one about which nothing is known yet.
  intro cycle within
  rcases Nat.lt_succ_iff_lt_or_eq.mp within with earlier | same
  · exact lasts cycle earlier
  · rw [same]
    exact going

/-- A run cannot end before a cycle that it lasts for. -/
theorem EndsAfter.le {requests : Nat → Bool} {cycles others : Nat} {bench : Bench D H M}
    (ends : bench.EndsAfter requests cycles) (lasts : bench.Lasts requests others) :
    others ≤ cycles := by
  refine Nat.le_of_not_lt fun longer => ?_
  -- A longer run would have gone on where this one stopped.
  have going := lasts cycles longer
  rw [ends.2] at going
  cases going

/-- A run ends after one number of cycles only. -/
theorem EndsAfter.unique {requests : Nat → Bool} {cycles others : Nat} {bench : Bench D H M}
    (ends : bench.EndsAfter requests cycles) (alsoEnds : bench.EndsAfter requests others) :
    cycles = others :=
  -- Neither number can be the larger one, since a run lasts for all the cycles before its end.
  Nat.le_antisymm (alsoEnds.le ends.1) (ends.le alsoEnds.1)

/-- A bench with a reason to stop is handed back as soon as it was asked. -/
theorem cyclesUntilStop_of_stop {requests : Nat → Bool} {done left : Nat} {bench : Bench D H M}
    (stops : bench.mayContinue.1 = false) :
    bench.cyclesUntilStop requests done left = some bench.asked := by
  -- Whether cycles are left does not matter, as none of them is run.
  cases answer : bench.mayContinue with
  | mk going told =>
    rw [answer] at stops
    subst stops
    cases left <;> simp [cyclesUntilStop, asked, answer]

/-- A bench without a reason to stop does not stop when no cycle is left. -/
theorem cyclesUntilStop_zero_of_go {requests : Nat → Bool} {done : Nat} {bench : Bench D H M}
    (going : bench.mayContinue.1 = true) : bench.cyclesUntilStop requests done 0 = none := by
  -- The bench is asked all the same, since the run may end just here.
  cases answer : bench.mayContinue with
  | mk goes told =>
    rw [answer] at going
    subst going
    simp [cyclesUntilStop, answer]

/-- A bench without a reason to stop runs one more cycle, if one is left. -/
theorem cyclesUntilStop_succ_of_go {requests : Nat → Bool} {done left : Nat}
    {bench : Bench D H M} (going : bench.mayContinue.1 = true) :
    bench.cyclesUntilStop requests done (left + 1) =
      (bench.asked.step (requests done)).cyclesUntilStop requests (done + 1) left := by
  -- The cycle starts on the bench that was asked, which may have told the host.
  cases answer : bench.mayContinue with
  | mk goes told =>
    rw [answer] at going
    subst going
    simp [cyclesUntilStop, asked, answer]

/-- Running on after some cycles of a run finds the cycle after which the whole run ends. -/
theorem cyclesUntilStop_eq_some_iff {requests : Nat → Bool} {bench stopped : Bench D H M}
    (left : Nat) : ∀ done, bench.Lasts requests done →
      ((bench.after requests done).cyclesUntilStop requests done left = some stopped ↔
        ∃ cycles ≤ done + left, bench.EndsAfter requests cycles ∧
          (bench.after requests cycles).asked = stopped) := by
  -- When the run ends at once, the bench found is the one asked last.
  have found : ∀ {done left : Nat}, bench.EndsAfter requests done →
      ((bench.after requests done).cyclesUntilStop requests done left = some stopped ↔
        ∃ cycles ≤ done + left, bench.EndsAfter requests cycles ∧
          (bench.after requests cycles).asked = stopped) := by
    intro done left ends
    rw [cyclesUntilStop_of_stop ends.2, Option.some.injEq]
    constructor
    · intro same
      exact ⟨done, Nat.le_add_right done left, ends, same⟩
    · rintro ⟨cycles, -, alsoEnds, same⟩
      rw [ends.unique alsoEnds]
      exact same
  -- The whole run stays fixed, and only the number of its cycles done so far grows.
  induction left with
  | zero =>
    intro done lasts
    cases going : (bench.after requests done).mayContinue.1 with
    | true =>
      rw [cyclesUntilStop_zero_of_go going]
      simp only [reduceCtorEq, false_iff]
      rintro ⟨cycles, within, ends, -⟩
      have longer := ends.le (lasts.succ going)
      omega
    | false => exact found ⟨lasts, going⟩
  | succ left ih =>
    intro done lasts
    cases going : (bench.after requests done).mayContinue.1 with
    | true =>
      rw [cyclesUntilStop_succ_of_go going]
      -- One more cycle of the same run is done, and one less is left.
      have later := ih (done + 1) (lasts.succ going)
      rw [Nat.add_right_comm, Nat.add_assoc] at later
      exact later
    | false => exact found ⟨lasts, going⟩

/-- A run returns exactly when it ends within its limit, with the summary of its last bench. -/
theorem run?_eq_some_iff {requests : Nat → Bool} {limit : Nat} {late : Bool}
    {bench final : Bench D H M} {summary : Summary} :
    bench.run? requests limit late = some (summary, final) ↔
      ∃ cycles ≤ limit, bench.EndsAfter requests cycles ∧
        ((bench.after requests cycles).asked.requestStopIf late).finish = (summary, final) := by
  -- Nothing is asked of the cycles before the first one.
  have none_done : bench.Lasts requests 0 := fun cycle within => absurd within (by omega)
  rw [run?, Option.map_eq_some_iff]
  constructor
  · rintro ⟨stopped, found, finished⟩
    obtain ⟨cycles, within, ends, same⟩ := (cyclesUntilStop_eq_some_iff limit 0 none_done).mp found
    exact ⟨cycles, by omega, ends, by rw [same, finished]⟩
  · rintro ⟨cycles, within, ends, finished⟩
    -- The limit leaves room for all cycles up to the end.
    refine ⟨(bench.after requests cycles).asked, ?_, finished⟩
    exact (cyclesUntilStop_eq_some_iff limit 0 none_done).mpr ⟨cycles, by omega, ends, rfl⟩

end Testbench.Bench
