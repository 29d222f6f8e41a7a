import Testbench.Proofs.Bench.Progress

/-! Benches on which no cycle was run yet, before and after the design was reset. -/

namespace Testbench.Bench

/-- A bench on which no cycle was run yet, while a stop may have been requested already. -/
structure Fresh {D H M : Type} (bench : Bench D H M) : Prop where
  progress : bench.progress = { budget := bench.settings.cycleLimit }
  link : bench.link =
    { frameBytes := bench.link.frameBytes, stopRequested := bench.link.stopRequested }
  gates : ∃ base, ∀ (index : Nat) (channel : Channel M),
    bench.channels[index]? = some channel → channel.gate = { channel := index, base }

section Assembly

variable {D H M : Type} [Design D]

/-- An assembled bench has a link for the frames of its design, and a channel for each memory. -/
theorem eq_of_assemble {settings : Settings} {design : D} {host : H} {memories : List M}
    {bench : Bench D H M} (assembled : assemble settings design host memories = .ok bench) :
    memories.length = (Design.geometry design).channels ∧
      ∃ size, bench =
        { settings, design, host
          channels := memories.mapIdx fun index memory =>
            Channel.ofMemory (Design.geometry design).base index memory
          link := { frameBytes := size } } := by
  -- Only the last of the three ways through assembling ends with a bench.
  unfold assemble at assembled
  simp only at assembled
  split at assembled
  · cases assembled
  · rename_i matched
    split at assembled
    · cases assembled
    · rename_i link linked
      -- The width of the frames is all that a new link takes over from the design.
      obtain ⟨size, -, rfl⟩ := Host.Link.eq_of_ofWidth linked
      cases assembled
      exact ⟨Decidable.not_not.mp matched, size, rfl⟩

/-- A bench is fresh when it was assembled. -/
theorem fresh_of_assemble {settings : Settings} {design : D} {host : H} {memories : List M}
    {bench : Bench D H M} (assembled : assemble settings design host memories = .ok bench) :
    bench.Fresh := by
  obtain ⟨-, size, rfl⟩ := eq_of_assemble assembled
  refine ⟨rfl, rfl, (Design.geometry design).base, ?_⟩
  -- A channel of the new bench is a memory with a gate that has seen no offer.
  intro index channel found
  simp only [List.getElem?_mapIdx, Option.map_eq_some_iff] at found
  obtain ⟨memory, -, rfl⟩ := found
  rfl

end Assembly

section Preparation

variable {D H M : Type}

/-- A request to stop leaves a bench fresh. -/
theorem Fresh.requestStop {bench : Bench D H M} (fresh : bench.Fresh) :
    bench.requestStop.Fresh where
  -- A request sets a flag of the link, which is no part of what was exchanged.
  progress := fresh.progress
  link := congrArg Host.Link.requestStop fresh.link
  gates := fresh.gates

/-- A trace and other sinks leave a bench fresh. -/
theorem Fresh.attach {bench : Bench D H M} (fresh : bench.Fresh)
    (recorder : Option Trace.Recorder) (sinks : Sinks) :
    { bench with recorder, sinks : Bench D H M }.Fresh where
  -- Recorder and sinks are no part of what makes a bench fresh.
  progress := fresh.progress
  link := fresh.link
  gates := fresh.gates

/-- Another state of the design, and more in the journal, leave a bench fresh. -/
theorem Fresh.redesign {bench : Bench D H M} (fresh : bench.Fresh) (design : D)
    (journal : Journal) : { bench with design, journal : Bench D H M }.Fresh where
  -- The channels are untouched, and with them the gates and the base they were given.
  progress := fresh.progress
  link := fresh.link
  gates := fresh.gates

end Preparation

section Reset

variable {D H M : Type} [Design D]

/-- What every call in reset preserves is preserved while a design is clocked in reset. -/
theorem resetCycles_preserves (holds : Bench D H M → Prop)
    (settles : ∀ bench, holds bench → holds bench.settleReset.2)
    (commits : ∀ bench, holds bench → holds bench.commitReset)
    (left missing clocked : Nat) {bench : Bench D H M} (before : holds bench) :
    holds (bench.resetCycles missing clocked left).2 := by
  induction left generalizing missing clocked bench with
  | zero =>
    -- Either enough edges were seen or the attempt is given up, without another call.
    unfold resetCycles
    split <;> exact before
  | succ left ih =>
    unfold resetCycles
    split
    · exact before
    · split
      · rename_i fault failed found
        -- A failing cycle is the last one, and is not committed.
        have settled := settles bench before
        rw [found] at settled
        exact settled
      · rename_i settled found
        have after := settles bench before
        rw [found] at after
        exact ih _ _ (commits settled after)

/-- Clocking a design in reset changes the design and the journal. -/
theorem resetCycles_eq (left missing clocked : Nat) (bench : Bench D H M) :
    ∃ design journal,
      (bench.resetCycles missing clocked left).2 = { bench with design, journal } := by
  -- Both halves of a clock in reset evaluate the design and note the calls, nothing else.
  apply resetCycles_preserves fun after : Bench D H M =>
    ∃ design journal, after = { bench with design, journal }
  case settles =>
    rintro _ ⟨design, journal, rfl⟩
    exact ⟨_, _, rfl⟩
  case commits =>
    rintro _ ⟨design, journal, rfl⟩
    exact ⟨_, _, rfl⟩
  case before => exact ⟨bench.design, bench.journal, rfl⟩

/-- A reset leaves what clocking in reset leaves, and may remark that it succeeded. -/
theorem reset_eq (bench : Bench D H M) :
    ∃ journal, bench.reset.2 =
      { (bench.holdIdle.resetCycles resetEdges 0 maxResetCycles).2 with journal } := by
  unfold reset
  -- A failed reset returns the bench it failed on, a good one adds the remark.
  split
  · rename_i fault failed answer
    exact ⟨failed.journal, by rw [answer]⟩
  · rename_i cycles released answer
    exact ⟨released.journal.remark (.resetReleased cycles), by rw [answer]; rfl⟩

/-- A reset changes the design and the journal, whether it succeeds or not. -/
theorem reset_snd_eq (bench : Bench D H M) :
    ∃ design journal, bench.reset.2 = { bench with design, journal } := by
  obtain ⟨design, _, clocked⟩ := resetCycles_eq maxResetCycles resetEdges 0 bench.holdIdle
  obtain ⟨journal, same⟩ := bench.reset_eq
  -- Idle host inputs, the clocks and the remark add up to a new design and a longer journal.
  refine ⟨design, journal, ?_⟩
  rw [same, clocked]
  rfl

/-- A bench is fresh after its design was reset, and also after the attempt failed. -/
theorem Fresh.reset {bench : Bench D H M} (fresh : bench.Fresh) : bench.reset.2.Fresh := by
  obtain ⟨design, journal, same⟩ := bench.reset_snd_eq
  rw [same]
  exact fresh.redesign design journal

end Reset

end Testbench.Bench
