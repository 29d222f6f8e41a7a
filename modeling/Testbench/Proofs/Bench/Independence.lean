import Testbench.Proofs.Bench.Delivery
import Testbench.Proofs.Channel.Persistence

/-! Each memory channel goes its own way, as if there was nothing else on the bench. -/

namespace Testbench

/-- A channel by itself takes no notice of offers that come later. -/
theorem Channel.atCycle_congr {M : Type} [Memory M] {offers others : Nat → Offers} {count : Nat}
    (same : ∀ cycle < count, offers cycle = others cycle) (channel : Channel M) :
    channel.atCycle offers count = channel.atCycle others count := by
  -- The last cycle takes its own offers, and the ones before it led to the same channel.
  induction count with
  | zero => rfl
  | succ count ih =>
    have earlier := ih fun cycle within => same cycle (Nat.lt_succ_of_lt within)
    rw [atCycle, atCycle, earlier, same count (Nat.lt_succ_self count)]

namespace Bench

/-- The channel at a position of a wired bench has the position as its number. -/
theorem Wired.number {D H M : Type} {count index : Nat} {bench : Bench D H M}
    {channel : Channel M} (wired : bench.Wired count)
    (found : bench.channels[index]? = some channel) : channel.gate.channel = index := by
  -- The numbers of all channels make up a range, which has at each position the position.
  have within : index < count := by
    rw [← wired.length]
    exact (List.getElem?_eq_some_iff.mp found).1
  have numbered := congrArg (fun numbers : List Nat => numbers[index]?) wired
  simp only [List.getElem?_map, found, Option.map_some, List.getElem?_range within] at numbered
  exact Option.some.inj numbered

section Steps

variable {D H M : Type} [Design D] [Host H] [Memory M]

/-- What the design shows on a channel in a cycle, once it has settled. -/
def offersOn (asks requests : Nat → Bool) (channel : Nat) (bench : Bench D H M) (cycle : Nat) :
    Offers :=
  Design.offers ((bench.atCycle asks requests cycle).settledIn (requests cycle)).2.design channel

/--
In a cycle whose design settles, each channel takes the offers that are made on its position.

The channels are gone through twice, to be shown to the design and to be served.
In between, nothing but the design has changed.
-/
theorem channels_step_of_sound {count : Nat} {bench : Bench D H M} (wired : bench.Wired count)
    (requested : Bool) (sound : bench.faultIn = none) (index : Nat) :
    (bench.step requested).channels[index]? = bench.channels[index]?.map
      (Channel.afterCycle (Design.offers (bench.settledIn requested).2.design index)) := by
  have served : (bench.step requested).channels =
      bench.channels.map fun channel => channel.afterCycle
        (Design.offers (bench.settledIn requested).2.design channel.gate.channel) := by
    rw [channels_step, sound, Option.isSome_none, if_neg Bool.false_ne_true, passOffers, offered,
      channels_settledIn, List.map_map, List.map_map]
    rfl
  rw [served, List.getElem?_map]
  -- The gate asks for the offers by its own number, which is its position.
  cases found : bench.channels[index]? with
  | none => rfl
  | some channel => rw [Option.map_some, Option.map_some, wired.number found]

variable {asks requests : Nat → Bool} {count : Nat} {bench : Bench D H M}

/-- Over some cycles whose designs settle, each channel goes through the offers made on it. -/
theorem channels_steps_of_sound {channels : Nat} (wired : bench.Wired channels)
    (sound : bench.Sound asks requests count) (index : Nat) :
    (bench.steps asks requests count).channels[index]? = bench.channels[index]?.map
      fun channel => channel.atCycle (bench.offersOn asks requests index) count := by
  -- Every cycle takes each channel one cycle further by itself.
  induction count with
  | zero => exact (Option.map_id' ..).symm
  | succ count ih =>
    have earlier := ih fun cycle within => sound cycle (Nat.lt_succ_of_lt within)
    have settles := sound count (Nat.lt_succ_self count)
    -- Asking for a reason to stop comes between the cycles, and leaves the channels alone.
    have asked : (bench.atCycle asks requests count).channels =
        (bench.steps asks requests count).channels := channels_ready ..
    have ready : (bench.atCycle asks requests count).Wired channels :=
      (wired.steps asks requests count).of_numbers (by rw [asked])
    have last := channels_step_of_sound ready (requests count) settles index
    rw [asked, earlier, Option.map_map] at last
    exact last

/-- The memory channels of a bench keep to themselves over some cycles. -/
structure Independent (asks requests : Nat → Bool) (count : Nat) (base : UInt64)
    (memories : List M) (bench : Bench D H M) : Prop where
  /-- Each channel is as it would be with its memory and the offers made on it, all by itself. -/
  alone : ∀ channel : Nat,
    (bench.steps asks requests count).channels[channel]? = memories[channel]?.map fun memory =>
      (Channel.ofMemory base channel memory).atCycle (bench.offersOn asks requests channel) count
  /-- It is the same on any bench that makes the same offers on it, whatever else is different. -/
  indifferent : ∀ {D' H' : Type} [Design D'] [Host H'] {channels : Nat} (other : Bench D' H' M)
    (asks' requests' : Nat → Bool), other.Wired channels → other.Sound asks' requests' count →
    ∀ channel : Nat, other.channels[channel]? = bench.channels[channel]? →
      (∀ cycle < count, other.offersOn asks' requests' channel cycle =
        bench.offersOn asks requests channel cycle) →
      (other.steps asks' requests' count).channels[channel]? =
        (bench.steps asks requests count).channels[channel]?

/--
The memory channels of a bench are independent over all cycles whose designs settle.

Since the bench was assembled, it may have been reset, equipped and asked to stop.
-/
theorem independent_of_assemble {settings : Settings} {design : D} {host : H} {memories : List M}
    {start : Bench D H M} (assembled : assemble settings design host memories = .ok start)
    (unused : bench.channels = start.channels) (sound : bench.Sound asks requests count) :
    bench.Independent asks requests count (Design.geometry design).base memories := by
  have wired : bench.Wired (Design.geometry design).channels :=
    (wired_of_assemble assembled).of_numbers (by rw [unused])
  constructor
  case alone =>
    -- Each channel started out with the memory and the number of its position.
    intro channel
    obtain ⟨-, size, rfl⟩ := eq_of_assemble assembled
    rw [channels_steps_of_sound wired sound, unused, List.getElem?_mapIdx, Option.map_map]
    rfl
  case indifferent =>
    intro D' H' _ _ channels other asks' requests' otherWired otherSound channel same offered
    rw [channels_steps_of_sound otherWired otherSound, channels_steps_of_sound wired sound, same]
    -- What is offered later than in these cycles plays no part on either bench.
    congr 1
    funext before
    exact before.atCycle_congr offered

/--
A read on the second of two channels goes by itself, whatever is written through the first.

On the other bench, which has another limit, the first channel and the host are idle.
-/
theorem independent_of_staged_write :
    let none := fun _ : Nat => false
    let read : Offers := { read := { valid := true, address := 0x100 } }
    let write : Offers := {
      write := { valid := true, address := 0x102 }
      beat := { valid := true, data := [1, 2], strobe := 3, last := true } }
    let bench := (stagedBench {} { channels := 2, stages := [{ offers := [write, read] }] }
      { answers := [some [1, 2]] }).reset.2
    let other := (stagedBench { cycleLimit := 1 }
      { channels := 2, stages := [{ offers := [{}, read] }] } {}).reset.2
    bench.Independent none none 2 0x100 (stagedMemories { channels := 2 }) ∧
      (other.steps none none 2).channels[1]? = (bench.steps none none 2).channels[1]? ∧
      (other.steps none none 2).channels[0]? ≠ (bench.steps none none 2).channels[0]? := by
  intro none read write bench other
  -- No stage of either script fails to settle.
  have sound : bench.Sound none none 2 ∧ other.Sound none none 2 := by
    constructor <;> intro cycle within <;> match cycle, within with
    | 0, _ => decide +kernel
    | 1, _ => decide +kernel
  have independent : bench.Independent none none 2 0x100 (stagedMemories { channels := 2 }) :=
    independent_of_assemble (assemble_staged {}
      { channels := 2, stages := [{ offers := [write, read] }] } { answers := [some [1, 2]] })
      (channels_reset _) sound.1
  have wired : other.Wired 2 :=
    (wired_of_assemble (assemble_staged ..)).of_numbers (by rw [channels_reset])
  -- The second channels start alike and are offered alike; the first ones are not.
  have same : other.channels[1]? = bench.channels[1]? := by decide +kernel
  have offered : ∀ cycle < 2,
      other.offersOn none none 1 cycle = bench.offersOn none none 1 cycle := by decide +kernel
  have written : (other.steps none none 2).channels[0]? ≠
      (bench.steps none none 2).channels[0]? := by decide +kernel
  clear_value bench other
  exact ⟨independent, independent.indifferent other none none wired sound.2 1 same offered, written⟩

end Steps

end Bench

end Testbench
