import Mathlib.Data.List.ReduceOption
import Testbench.Proofs.Marker.Collapse

/-! The cycles of a run in which markers complete, and the cycles since the last start. -/

namespace Testbench.Marker

/--
A marker completes in a cycle when it does so with the instruction seen in it.

In some cycles, no instruction is seen.
-/
def completesAt (marker : List UInt32) (seen : List (Option UInt32)) (cycle : Nat) : Bool :=
  match seen[cycle]? with
  | some (some instruction) => completes marker (seen.take cycle).reduceOption instruction
  | _ => false

/-- The cycles in which a marker completes, in order. -/
def completions (marker : List UInt32) (seen : List (Option UInt32)) : List Nat :=
  (List.range seen.length).filter (completesAt marker seen)

/-- The last cycle before a given one in which a start completes, and else the first cycle. -/
def lastStart (seen : List (Option UInt32)) (cycle : Nat) : Nat :=
  ((completions startMarker seen).filter (· < cycle)).getLast?.getD 0

/-- The cycles since the last start before a given one. -/
def sinceStart (seen : List (Option UInt32)) (cycle : Nat) : Nat :=
  cycle - lastStart seen cycle

section Completions

variable {marker : List UInt32} {seen : List (Option UInt32)}

/-- What is seen later does not matter to the earlier cycles. -/
theorem completesAt_concat_of_lt {cycle : Nat} (earlier : cycle < seen.length)
    (sample : Option UInt32) :
    completesAt marker (seen ++ [sample]) cycle = completesAt marker seen cycle := by
  -- Both the sample of the cycle and what came before it are among those seen.
  rw [completesAt, completesAt, List.getElem?_append_left earlier,
    List.take_append_of_le_length (Nat.le_of_lt earlier)]

/-- In the cycle after those seen, a marker completes with the next instruction. -/
theorem completesAt_concat_length (sample : Option UInt32) :
    completesAt marker (seen ++ [sample]) seen.length =
      sample.any (completes marker seen.reduceOption) := by
  rw [completesAt, List.getElem?_concat_length, List.take_left']
  · -- What came before is all that was seen, and a cycle without a sample completes nothing.
    cases sample <;> rfl
  · rfl

/-- One more cycle may be one in which a marker completes. -/
theorem completions_concat (sample : Option UInt32) :
    completions marker (seen ++ [sample]) =
      completions marker seen ++
        if sample.any (completes marker seen.reduceOption) then [seen.length] else [] := by
  -- In the earlier cycles, the same markers complete as before.
  have earlier : (List.range seen.length).filter (completesAt marker (seen ++ [sample])) =
      completions marker seen := by
    apply List.filter_congr
    intro cycle within
    exact completesAt_concat_of_lt (List.mem_range.mp within) sample
  rw [completions, List.length_append, List.length_singleton, List.range_succ,
    List.filter_append, earlier]
  -- The last cycle stays on its own.
  rw [List.filter_singleton, completesAt_concat_length, Bool.cond_eq_ite]

/-- Markers complete in cycles that were seen. -/
theorem lt_of_mem_completions {cycle : Nat} (completed : cycle ∈ completions marker seen) :
    cycle < seen.length :=
  -- They are filtered from the range of the cycles seen.
  List.mem_range.mp (List.mem_filter.mp completed).1

end Completions

section Starts

variable {seen : List (Option UInt32)}

/-- The last start comes before the given cycle. -/
theorem lastStart_le (seen : List (Option UInt32)) (cycle : Nat) :
    lastStart seen cycle ≤ cycle := by
  unfold lastStart
  cases last : ((completions startMarker seen).filter (· < cycle)).getLast? with
  | none => exact Nat.zero_le cycle
  | some start =>
    -- The last of the earlier completions is one of them.
    have among := List.mem_of_getLast? last
    have before : start < cycle := by simpa using (List.mem_filter.mp among).2
    exact Nat.le_of_lt before

/-- What is seen later does not matter to the last start before an earlier cycle. -/
theorem lastStart_concat_of_le {cycle : Nat} (earlier : cycle ≤ seen.length)
    (sample : Option UInt32) : lastStart (seen ++ [sample]) cycle = lastStart seen cycle := by
  rw [lastStart, lastStart, completions_concat, List.filter_append]
  -- A completion in the last cycle is not before the given one.
  have later : ¬ seen.length < cycle := by omega
  split <;> simp [later]

/-- After one more cycle, the last start is that cycle if a start completes in it. -/
theorem lastStart_concat_length (sample : Option UInt32) :
    lastStart (seen ++ [sample]) (seen.length + 1) =
      if sample.any (completes startMarker seen.reduceOption) then seen.length
      else lastStart seen seen.length := by
  -- All earlier completions come before the new cycle, and so before the one after it.
  have all : ∀ bound, seen.length ≤ bound →
      (completions startMarker seen).filter (· < bound) = completions startMarker seen := by
    intro bound enough
    rw [List.filter_eq_self]
    intro cycle completed
    have within := lt_of_mem_completions completed
    simp only [decide_eq_true_eq]
    omega
  rw [lastStart, lastStart, completions_concat, List.filter_append,
    all _ (Nat.le_succ _), all _ (Nat.le_refl _)]
  split <;> simp

/-- What is seen later does not matter to the cycles up to an earlier one. -/
theorem sinceStart_concat_of_le {cycle : Nat} (earlier : cycle ≤ seen.length)
    (sample : Option UInt32) : sinceStart (seen ++ [sample]) cycle = sinceStart seen cycle := by
  -- Only the last start before the cycle is looked up.
  rw [sinceStart, sinceStart, lastStart_concat_of_le earlier]

/-- After one more cycle, one more cycle has passed since the last start or since this one. -/
theorem sinceStart_concat_length (seen : List (Option UInt32)) (sample : Option UInt32) :
    sinceStart (seen ++ [sample]) (seen.length + 1) =
      (if sample.any (completes startMarker seen.reduceOption) then 0
        else sinceStart seen seen.length) + 1 := by
  have before := lastStart_le seen seen.length
  rw [sinceStart, sinceStart, lastStart_concat_length]
  -- The new cycle is the last start itself, or it is one cycle further from the old one.
  split <;> omega

end Starts

end Testbench.Marker
