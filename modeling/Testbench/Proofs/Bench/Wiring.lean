import Testbench.Proofs.Bench.Asking
import Testbench.Proofs.Bench.Fresh

/-! The channels of a bench are numbered in order, and keep their numbers whatever is done. -/

namespace Testbench.Bench

/-- The channels are numbered in order, up to their count. -/
def Wired {D H M : Type} (count : Nat) (bench : Bench D H M) : Prop :=
  (bench.channels.map fun channel => channel.gate.channel) = List.range count

/-- A bench is wired as long as its channels keep their numbers. -/
theorem Wired.of_numbers {D H M : Type} {count : Nat} {bench other : Bench D H M}
    (wired : bench.Wired count)
    (numbers : (other.channels.map fun channel => channel.gate.channel) =
      bench.channels.map fun channel => channel.gate.channel) :
    other.Wired count :=
  -- Being wired is a statement about the numbers alone.
  numbers.trans wired

/-- There are as many channels as numbers. -/
theorem Wired.length {D H M : Type} {count : Nat} {bench : Bench D H M}
    (wired : bench.Wired count) : bench.channels.length = count := by
  have lengths := congrArg List.length wired
  -- The numbers are those from zero on, one for each channel.
  simpa using lengths

/-- The channels of a fresh bench are numbered by their positions. -/
theorem Fresh.wired {D H M : Type} {bench : Bench D H M} (fresh : bench.Fresh) :
    bench.Wired bench.channels.length := by
  -- A gate of a fresh bench knows its position and the base of the addresses, and nothing else.
  obtain ⟨base, gates⟩ := fresh.gates
  apply List.ext_getElem
  · simp
  · intro index numbered _
    have within : index < bench.channels.length := by simpa using numbered
    have found := gates index bench.channels[index] (List.getElem?_eq_getElem within)
    simp [found]

section Assembly

variable {D H M : Type} [Design D]

/-- A bench that was assembled is wired for the channels of its design. -/
theorem wired_of_assemble {settings : Settings} {design : D} {host : H} {memories : List M}
    {bench : Bench D H M} (assembled : assemble settings design host memories = .ok bench) :
    bench.Wired (Design.geometry design).channels := by
  obtain ⟨matched, size, rfl⟩ := eq_of_assemble assembled
  -- Each channel is numbered by its memory, and the memories are as many as the channels.
  rw [Wired, ← matched]
  apply List.ext_getElem
  · simp
  · intro index within _
    simp [Channel.ofMemory]

end Assembly

section Around

variable {D H M : Type} [Host H]

/-- Asking leaves the channels alone. -/
theorem channels_asked (bench : Bench D H M) : bench.asked.channels = bench.channels := by
  obtain ⟨_, _, _, same⟩ := bench.asked_eq
  -- Only the host, the link and the journal change when the host is asked.
  rw [same]

/-- A bench that may be asked keeps its channels either way. -/
theorem channels_ready (ask : Bool) (bench : Bench D H M) :
    (bench.ready ask).channels = bench.channels := by
  -- A bench that is not asked is the same bench.
  cases ask with
  | false => rfl
  | true => exact bench.channels_asked

/-- Winding a run down leaves the channels alone. -/
theorem channels_finish (bench : Bench D H M) :
    bench.finish.2.channels = bench.channels := by
  obtain ⟨_, _, _, _, same⟩ := bench.finish_snd_eq
  -- Winding down changes other parts only.
  rw [same]

end Around

section Reset

variable {D H M : Type} [Design D]

/-- Resetting the design leaves the channels alone, whether it succeeds or not. -/
theorem channels_reset (bench : Bench D H M) : bench.reset.2.channels = bench.channels := by
  obtain ⟨_, _, same⟩ := bench.reset_snd_eq
  -- The channels are not among the parts that a reset changes.
  rw [same]

/-- Resetting the design writes nothing. -/
theorem sinks_reset (bench : Bench D H M) : bench.reset.2.sinks = bench.sinks := by
  obtain ⟨_, _, same⟩ := bench.reset_snd_eq
  -- What a reset has to tell are remarks, which go into the journal.
  rw [same]

end Reset

section Link

variable {D H M : Type}

/-- The link up to the exchange of frames, when a stop may be requested in the cycle. -/
def linkIn (requested : Bool) (bench : Bench D H M) : Host.Link :=
  if requested then bench.link.requestStop else bench.link

/-- A request to stop does not matter to the frame on its way in and to the counts. -/
theorem linkIn_eq (requested : Bool) (bench : Bench D H M) :
    (bench.linkIn requested).pendingFrame? = bench.link.pendingFrame? ∧
      (bench.linkIn requested).tally = bench.link.tally := by
  -- The request is a flag beside the frame and the tally.
  cases requested <;> exact ⟨rfl, rfl⟩

/-- A request to stop leaves the channels alone. -/
theorem channels_requestStopIf (requested : Bool) (bench : Bench D H M) :
    (bench.requestStopIf requested).channels = bench.channels := by
  -- It is noted on the link.
  rw [requestStopIf_eq]

end Link

section Settling

variable {D H M : Type} [Design D] [Memory M]

/-- Up to settling, a request to stop is noted, and the gates get to know what is shown. -/
theorem settledIn_eq (requested : Bool) (bench : Bench D H M) :
    ∃ design journal, (bench.settledIn requested).2 =
      { bench with
        design, journal
        channels := bench.channels.map Channel.afterShow
        link := bench.linkIn requested } := by
  -- Requested or not, the two benches differ in the link alone.
  cases requested <;> exact ⟨_, _, rfl⟩

/-- Up to settling, the channels only get to know what is shown in the cycle. -/
theorem channels_settledIn (requested : Bool) (bench : Bench D H M) :
    (bench.settledIn requested).2.channels = bench.channels.map Channel.afterShow := by
  obtain ⟨_, _, same⟩ := bench.settledIn_eq requested
  rw [same]

/-- Driving and settling keep the numbers of the channels. -/
theorem Wired.settledIn {count : Nat} {bench : Bench D H M} (wired : bench.Wired count)
    (requested : Bool) : (bench.settledIn requested).2.Wired count := by
  apply wired.of_numbers
  -- Showing a channel to the design updates its gate, whose number stays.
  rw [channels_settledIn, List.map_map]
  rfl

end Settling

section Step

variable {D H M : Type} [Design D] [Host H] [Memory M]

/-- Between settling and committing, the channels take the offers of a design that settled. -/
theorem channels_observe (fault : Option EvaluationFault) (bench : Bench D H M) :
    (bench.observe fault).channels =
      if fault.isSome then bench.channels else bench.passOffers.channels := by
  cases fault with
  -- A design that fails to settle is not served, so its memories see none of its offers.
  | some found =>
    obtain ⟨_, _, _, _, same⟩ := bench.observe_some_eq found
    rw [same]
    rfl
  | none =>
    obtain ⟨_, _, _, _, _, _, _, _, same⟩ := bench.observe_none_eq
    rw [same]
    rfl

/-- The channels after a cycle have seen what was shown, and the offers if the design settled. -/
theorem channels_step (requested : Bool) (bench : Bench D H M) :
    (bench.step requested).channels =
      if bench.faultIn.isSome then bench.channels.map Channel.afterShow
      else (bench.settledIn requested).2.passOffers.channels := by
  -- The commit is the design's own affair.
  have committed : (bench.step requested).channels =
      (bench.beforeCommit requested).channels := by
    rw [step_eq_commit]
    rfl
  rw [committed, beforeCommit, channels_observe, channels_settledIn]

/-- A cycle keeps the numbers of the channels. -/
theorem Wired.step {count : Nat} {bench : Bench D H M} (wired : bench.Wired count)
    (requested : Bool) : (bench.step requested).Wired count := by
  apply (wired.settledIn requested).of_numbers
  rw [channels_step]
  split
  · rw [channels_settledIn]
  · -- The offers change what a gate counts, and not its number.
    simp [passOffers, offered, Channel.afterOffers, Channel.Gate.pass]

/-- Cycles keep the numbers of the channels, whether the bench is asked before them or not. -/
theorem Wired.steps {count : Nat} {bench : Bench D H M} (wired : bench.Wired count)
    (asks requests : Nat → Bool) (cycles : Nat) :
    (bench.steps asks requests cycles).Wired count := by
  -- The last cycle starts from a wired bench, whether that was asked or not.
  induction cycles with
  | zero => exact wired
  | succ cycles ih =>
    have ready : ((bench.steps asks requests cycles).ready (asks cycles)).Wired count :=
      ih.of_numbers (by rw [channels_ready])
    exact ready.step (requests cycles)

/-- A run keeps the numbers of the channels. -/
theorem Wired.after {count : Nat} {bench : Bench D H M} (wired : bench.Wired count)
    (requests : Nat → Bool) (cycles : Nat) : (bench.after requests cycles).Wired count := by
  -- A run is the case in which the bench is asked before every cycle.
  rw [← steps_eq_after]
  exact wired.steps (fun _ => true) requests cycles

end Step

section Reached

variable {D H M : Type} [Design D] [Host H] [Memory M]

/-- A bench to which some start leads by anything that may be done on a bench. -/
inductive Reached (start : Bench D H M) : Bench D H M → Prop where
  | start : Reached start start
  | attach {bench : Bench D H M} (reached : Reached start bench)
    (recorder : Option Trace.Recorder) (sinks : Sinks) :
    Reached start { bench with recorder, sinks }
  | requestStop {bench : Bench D H M} (reached : Reached start bench) :
    Reached start bench.requestStop
  | reset {bench : Bench D H M} (reached : Reached start bench) : Reached start bench.reset.2
  | ask {bench : Bench D H M} (reached : Reached start bench) : Reached start bench.asked
  | step {bench : Bench D H M} (reached : Reached start bench) (requested : Bool) :
    Reached start (bench.step requested)
  | finish {bench : Bench D H M} (reached : Reached start bench) : Reached start bench.finish.2

/-- Whatever is done on a bench, its channels keep their numbers. -/
theorem Reached.wired {count : Nat} {start bench : Bench D H M} (reached : start.Reached bench)
    (wired : start.Wired count) : bench.Wired count := by
  induction reached with
  | start => exact wired
  -- What does not touch the channels keeps their numbers, and a cycle does as shown before.
  | attach _ _ _ ih => exact ih
  | requestStop _ ih => exact ih
  | reset _ ih => exact ih.of_numbers (by rw [channels_reset])
  | ask _ ih => exact ih.of_numbers (by rw [channels_asked])
  | step _ requested ih => exact ih.step requested
  | finish _ ih => exact ih.of_numbers (by rw [channels_finish])

end Reached

end Testbench.Bench
