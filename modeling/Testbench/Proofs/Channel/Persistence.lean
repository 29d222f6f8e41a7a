import Mathlib.Data.List.ProdSigma
import Mathlib.Data.Nat.Find
import Testbench.Proofs.Channel.Wires

/-! An offer stays as it is until it is accepted, or else a violation is counted. -/

namespace Testbench

/-- The kinds of offers that a memory may let wait. -/
inductive OfferKind where
  | read
  | write
  | beat
  deriving DecidableEq

/-- What an offer is about, apart from being valid. -/
inductive Payload where
  | request (address id : UInt64) (size lastBeat : UInt8)
  | beat (data : List UInt8) (strobe : UInt64) (last : Bool)
  deriving DecidableEq

/-- The payload with its address, if it has one, counted from a base. -/
def Payload.relocate (base : UInt64) : Payload → Payload
  | .request address id size lastBeat => .request (address - base) id size lastBeat
  | .beat data strobe last => .beat data strobe last

/-- The payload of a request. -/
def AddressRequest.payload (request : AddressRequest) : Payload :=
  .request request.address request.id request.size request.lastBeat

/-- The payload of a write beat. -/
def WriteBeat.payload (beat : WriteBeat) : Payload :=
  .beat beat.data beat.strobe beat.last

namespace OfferKind

/-- All kinds of offers. -/
def all : List OfferKind := [.read, .write, .beat]

/-- An offer of the kind is shown. -/
def valid (offers : Offers) : OfferKind → Bool
  | .read => offers.read.valid
  | .write => offers.write.valid
  | .beat => offers.beat.valid

/-- The payload on the wires for the kind, whether it is valid or not. -/
def payload (offers : Offers) : OfferKind → Payload
  | .read => offers.read.payload
  | .write => offers.write.payload
  | .beat => offers.beat.payload

/-- The design is told that an offer of the kind would be accepted. -/
def ready (told : Ready) : OfferKind → Bool
  | .read => told.read
  | .write => told.write
  | .beat => told.beat

/-- The number of accepted offers of the kind. -/
def accepted (tally : Channel.Tally) : OfferKind → Nat
  | .read => tally.reads
  | .write => tally.writes
  | .beat => tally.beats

/-- The gate passes an offer as valid exactly when it is, and with the address relocated. -/
theorem relocated_eq (kind : OfferKind) (gate : Channel.Gate) (offers : Offers) :
    kind.valid (gate.relocated offers) = kind.valid offers ∧
      kind.payload (gate.relocated offers) = (kind.payload offers).relocate gate.base := by
  -- The beat has no address, so relocating it changes nothing.
  cases kind <;> exact ⟨rfl, rfl⟩

end OfferKind

namespace Channel

section Waiting

/-- What waits is broken unless it is shown again, as valid and with the same payload. -/
theorem isBroken_eq {α : Type} [DecidableEq α] {valid : α → Bool} {payload : α → Payload}
    (determined : ∀ before now, valid before = true →
      (before = now ↔ valid now = true ∧ payload now = payload before))
    (ready : Bool) (before now : α) :
    isBroken (if valid before && !ready then some before else none) now =
      (valid before && !ready && !(valid now && payload now == payload before)) := by
  cases waits : valid before && !ready with
  | false => rfl
  | true =>
    -- What waits is compared as a whole, which is the same as comparing the payloads.
    rw [Bool.and_eq_true] at waits
    have same := determined before now waits.1
    rw [Bool.eq_iff_iff]
    cases shown : valid now <;> simp [isBroken, same, shown]

/-- A valid request is determined by its payload. -/
theorem request_eq_iff (before now : AddressRequest) (valid : before.valid = true) :
    before = now ↔ now.valid = true ∧ now.payload = before.payload := by
  obtain ⟨_, _, _, _, _⟩ := before
  obtain ⟨_, _, _, _, _⟩ := now
  -- Validity and payload are all the fields there are.
  subst valid
  simp only [AddressRequest.mk.injEq, AddressRequest.payload, Payload.request.injEq]
  grind

/-- A valid beat is determined by its payload. -/
theorem beat_eq_iff (before now : WriteBeat) (valid : before.valid = true) :
    before = now ↔ now.valid = true ∧ now.payload = before.payload := by
  obtain ⟨_, _, _, _⟩ := before
  obtain ⟨_, _, _, _⟩ := now
  -- Validity and payload are all the fields there are.
  subst valid
  simp only [WriteBeat.mk.injEq, WriteBeat.payload, Payload.beat.injEq]
  grind

/-- The offers that are broken in a cycle are counted by their kinds. -/
theorem broken_after (ready : Ready) (before now : Offers) :
    (Waiting.after ready before).broken now = OfferKind.all.countP fun kind =>
      kind.valid before && !kind.ready ready &&
        !(kind.valid now && kind.payload now == kind.payload before) := by
  -- The three kinds are watched alike, and each of them adds at most one.
  have read := isBroken_eq request_eq_iff ready.read before.read now.read
  have write := isBroken_eq request_eq_iff ready.write before.write now.write
  have beat := isBroken_eq beat_eq_iff ready.beat before.beat now.beat
  have counts : ∀ broken : Bool, broken.toNat = if broken = true then 1 else 0 := by decide
  rw [Waiting.broken, Waiting.after, read, write, beat, counts, counts, counts]
  simp only [OfferKind.all, List.countP_cons, List.countP_nil, OfferKind.valid, OfferKind.ready,
    OfferKind.payload]
  omega

end Waiting

section Cycles

variable {M : Type} [Memory M]

/-- The channel at the start of a cycle, when the design makes some offers in each one. -/
def atCycle (offers : Nat → Offers) : (cycle : Nat) → Channel M → Channel M
  | 0, channel => channel
  | cycle + 1, channel => (channel.atCycle offers cycle).afterCycle (offers cycle)

/-- The offers with which the memory is ticked in a cycle. -/
def ticked (offers : Nat → Offers) (cycle : Nat) (channel : Channel M) : Offers :=
  (channel.atCycle offers cycle).gate.relocated (offers cycle)

/-- The design is told in a cycle that an offer of the kind is accepted. -/
def readyIn (kind : OfferKind) (offers : Nat → Offers) (cycle : Nat) (channel : Channel M) :
    Bool :=
  kind.ready (channel.atCycle offers cycle).presented.ready

/-- The number of offers of the kind that are counted as accepted before a cycle. -/
def acceptedBefore (kind : OfferKind) (offers : Nat → Offers) (cycle : Nat)
    (channel : Channel M) : Nat :=
  kind.accepted (channel.atCycle offers cycle).gate.tally

/-- An offer of the kind still waits before a cycle: it was shown, and not accepted. -/
def waitsBefore (kind : OfferKind) (offers : Nat → Offers) :
    (cycle : Nat) → Channel M → Bool
  | 0, _ => false
  | cycle + 1, channel => kind.valid (offers cycle) && !channel.readyIn kind offers cycle

/-- In a cycle, an offer that waits is withdrawn, or another one is shown in its place. -/
def breaksIn (kind : OfferKind) (offers : Nat → Offers) (cycle : Nat) (channel : Channel M) :
    Bool :=
  channel.waitsBefore kind offers cycle &&
    !(kind.valid (offers cycle) &&
      kind.payload (offers cycle) == kind.payload (offers (cycle - 1)))

/-- In a cycle, an offer of the kind is shown while none waits. -/
def beginsIn (kind : OfferKind) (offers : Nat → Offers) (cycle : Nat) (channel : Channel M) :
    Bool :=
  kind.valid (offers cycle) && !channel.waitsBefore kind offers cycle

/-- An offer that is shown from one cycle to another, of all cycles up to some count. -/
structure PassesOnce (kind : OfferKind) (offers : Nat → Offers) (count first last : Nat)
    (channel : Channel M) : Prop where
  ordered : first ≤ last
  within : last < count
  /-- The memory is ticked with the offer in each cycle, with its address counted from the base. -/
  reaches : ∀ cycle, first ≤ cycle → cycle ≤ last →
    kind.valid (channel.ticked offers cycle) = true ∧
      kind.payload (channel.ticked offers cycle) =
        (kind.payload (offers first)).relocate channel.gate.base
  /-- Before its last cycle, it is not accepted. -/
  waits : ∀ cycle, first ≤ cycle → cycle < last → channel.readyIn kind offers cycle = false
  uncounted : ∀ cycle, first ≤ cycle → cycle ≤ last →
    channel.acceptedBefore kind offers cycle = channel.acceptedBefore kind offers first
  /-- In its last cycle, it is accepted and counted, unless it waits when the cycles end. -/
  closes :
    (channel.readyIn kind offers last = true ∧ channel.acceptedBefore kind offers (last + 1) =
      channel.acceptedBefore kind offers first + 1) ∨
    (channel.readyIn kind offers last = false ∧ last + 1 = count ∧
      channel.acceptedBefore kind offers count = channel.acceptedBefore kind offers first)

variable {kind : OfferKind} {offers : Nat → Offers} {channel : Channel M}

/-- The gate keeps its base. -/
theorem base_atCycle (offers : Nat → Offers) (cycle : Nat) (channel : Channel M) :
    (channel.atCycle offers cycle).gate.base = channel.gate.base := by
  -- A cycle replaces what the gate has seen and counted, not its base.
  induction cycle with
  | zero => rfl
  | succ cycle ih => exact ih

/-- What the memory is ticked with is what the design offers, relocated by the base. -/
theorem ticked_eq (kind : OfferKind) (offers : Nat → Offers) (cycle : Nat)
    (channel : Channel M) :
    kind.valid (channel.ticked offers cycle) = kind.valid (offers cycle) ∧
      kind.payload (channel.ticked offers cycle) =
        (kind.payload (offers cycle)).relocate channel.gate.base := by
  have relocated := kind.relocated_eq (channel.atCycle offers cycle).gate (offers cycle)
  -- The gate relocates by the base it has in that cycle, which is the first one.
  rw [base_atCycle] at relocated
  exact relocated

/-- An offer is counted in the cycle in which it is shown and the design is told of readiness. -/
theorem acceptedBefore_succ (kind : OfferKind) (offers : Nat → Offers) (cycle : Nat)
    (channel : Channel M) :
    channel.acceptedBefore kind offers (cycle + 1) = channel.acceptedBefore kind offers cycle +
      (kind.valid (offers cycle) && channel.readyIn kind offers cycle).toNat := by
  -- Each kind of offer has its own tally, which grows by exactly this bit.
  cases kind <;> rfl

/-- The violations counted in a cycle are the offers that break in it. -/
theorem violations_succ (offers : Nat → Offers) (cycle : Nat) {channel : Channel M}
    (fresh : channel.gate.waiting = {}) :
    (channel.atCycle offers (cycle + 1)).gate.tally.violations =
      (channel.atCycle offers cycle).gate.tally.violations +
        OfferKind.all.countP fun kind => channel.breaksIn kind offers cycle := by
  have counts : (channel.atCycle offers (cycle + 1)).gate.tally.violations =
      (channel.atCycle offers cycle).gate.tally.violations +
        (channel.atCycle offers cycle).gate.waiting.broken (offers cycle) := rfl
  rw [counts]
  cases cycle with
  | zero =>
    -- Nothing waits on a fresh channel, so nothing can break.
    have none : (channel.atCycle offers 0).gate.waiting = {} := fresh
    rw [none]
    rfl
  | succ cycle =>
    have waiting : (channel.atCycle offers (cycle + 1)).gate.waiting =
        Waiting.after (channel.atCycle offers cycle).presented.ready (offers cycle) := rfl
    rw [waiting, broken_after]
    rfl

/-- The violations counted are the offers that break, over all cycles. -/
theorem violations_eq (offers : Nat → Offers) (count : Nat) {channel : Channel M}
    (fresh : channel.gate.waiting = {}) :
    (channel.atCycle offers count).gate.tally.violations =
      channel.gate.tally.violations + (List.range count ×ˢ OfferKind.all).countP
        fun (cycle, kind) => channel.breaksIn kind offers cycle := by
  induction count with
  | zero => rfl
  | succ count ih =>
    -- One more cycle adds its own pairs behind those of the cycles before.
    have last : (([count] ×ˢ OfferKind.all).countP
        fun (cycle, kind) => channel.breaksIn kind offers cycle) =
          OfferKind.all.countP fun kind => channel.breaksIn kind offers count := by
      rw [List.product_cons, List.nil_product, List.append_nil, List.countP_map]
      rfl
    have pairs : List.range (count + 1) ×ˢ OfferKind.all =
        List.range count ×ˢ OfferKind.all ++ [count] ×ˢ OfferKind.all := by
      rw [List.range_succ]
      exact List.flatMap_append
    rw [violations_succ offers count fresh, ih, pairs, List.countP_append, last, Nat.add_assoc]

/-- Without violations, no offer of any kind breaks in any cycle. -/
theorem unbroken_of_violations {offers : Nat → Offers} {count : Nat} {channel : Channel M}
    (fresh : channel.gate.waiting = {})
    (none : (channel.atCycle offers count).gate.tally.violations = 0) (kind : OfferKind) :
    ∀ cycle < count, channel.breaksIn kind offers cycle = false := by
  intro cycle within
  -- Nothing is counted, so none of the pairs breaks.
  rw [violations_eq offers count fresh] at none
  have breaks := List.countP_eq_zero.mp (Nat.eq_zero_of_add_eq_zero_left none) (cycle, kind)
  have member : kind ∈ OfferKind.all := by cases kind <;> decide
  exact eq_false_of_ne_true
    (breaks (List.mem_product.mpr ⟨List.mem_range.mpr within, member⟩))

section Unbroken

variable {kind : OfferKind} {offers : Nat → Offers} {count : Nat} {channel : Channel M}

/-- An offer that waits and does not break is shown again, as valid and with its payload. -/
theorem shown_of_unbroken {cycle : Nat}
    (unbroken : channel.breaksIn kind offers (cycle + 1) = false)
    (valid : kind.valid (offers cycle) = true)
    (busy : channel.readyIn kind offers cycle = false) :
    kind.valid (offers (cycle + 1)) = true ∧
      kind.payload (offers (cycle + 1)) = kind.payload (offers cycle) := by
  -- It was valid and not taken, which is what makes an offer wait.
  have waits : channel.waitsBefore kind offers (cycle + 1) = true := by
    simp [waitsBefore, valid, busy]
  simpa [breaksIn, waits] using unbroken

/-- As long as an offer is not accepted, it is shown as it was first, and not counted. -/
theorem shown_of_waiting {first last : Nat}
    (unbroken : ∀ cycle < count, channel.breaksIn kind offers cycle = false)
    (within : last < count) (valid : kind.valid (offers first) = true)
    (waits : ∀ cycle, first ≤ cycle → cycle < last → channel.readyIn kind offers cycle = false)
    (cycle : Nat) (later : first ≤ cycle) (earlier : cycle ≤ last) :
    kind.valid (offers cycle) = true ∧
      kind.payload (offers cycle) = kind.payload (offers first) ∧
      channel.acceptedBefore kind offers cycle = channel.acceptedBefore kind offers first := by
  -- Every cycle hands the offer on to the next one, as it is not accepted in between.
  induction cycle, later using Nat.le_induction with
  | base => exact ⟨valid, rfl, rfl⟩
  | succ cycle later ih =>
    obtain ⟨still, same, uncounted⟩ := ih (Nat.le_of_succ_le earlier)
    have busy := waits cycle later earlier
    obtain ⟨again, payload⟩ :=
      shown_of_unbroken (unbroken (cycle + 1) (Nat.lt_of_le_of_lt earlier within)) still busy
    refine ⟨again, payload.trans same, ?_⟩
    rw [acceptedBefore_succ, busy, Bool.and_false, uncounted]
    rfl

/-- From every cycle on, there is a first one of readiness, unless the cycles end before. -/
theorem exists_first_ready (ready : Nat → Bool) {first count : Nat} (within : first < count) :
    ∃ last, first ≤ last ∧ last < count ∧
      (∀ cycle, first ≤ cycle → cycle < last → ready cycle = false) ∧
      (ready last = true ∨ ready last = false ∧ last + 1 = count) := by
  -- The search is for the first such cycle, and without any it ends at the last one.
  by_cases some : ∃ cycle, first ≤ cycle ∧ cycle < count ∧ ready cycle = true
  · obtain ⟨after, inside, found⟩ := Nat.find_spec some
    refine ⟨Nat.find some, after, inside, ?_, Or.inl found⟩
    intro cycle later earlier
    have none := Nat.find_min some earlier
    exact eq_false_of_ne_true fun ready => none ⟨later, Nat.lt_trans earlier inside, ready⟩
  · have none : ∀ cycle, first ≤ cycle → cycle < count → ready cycle = false :=
      fun cycle later inside => eq_false_of_ne_true fun ready => some ⟨cycle, later, inside, ready⟩
    refine ⟨count - 1, by omega, by omega, ?_, Or.inr ⟨none _ (by omega) (by omega), by omega⟩⟩
    intro cycle later earlier
    exact none cycle later (by omega)

/-- An offer that begins passes once, unless it waits when the cycles end. -/
theorem passesOnce_of_begins
    (unbroken : ∀ cycle < count, channel.breaksIn kind offers cycle = false) {first : Nat}
    (within : first < count) (begins : channel.beginsIn kind offers first = true) :
    ∃ last, channel.PassesOnce kind offers count first last := by
  -- The offer is followed up to the first cycle in which it is accepted.
  obtain ⟨last, ordered, inside, waits, ends⟩ :=
    exists_first_ready (fun cycle => channel.readyIn kind offers cycle) within
  have valid : kind.valid (offers first) = true := (Bool.and_eq_true _ _ ▸ begins).1
  -- Until then it waits in every cycle, so it is shown again unchanged.
  have shown := shown_of_waiting unbroken inside valid waits
  obtain ⟨still, -, uncounted⟩ := shown last ordered (Nat.le_refl last)
  have counted := acceptedBefore_succ kind offers last channel
  rw [still, Bool.true_and, uncounted] at counted
  refine ⟨last, ?_⟩
  constructor
  case ordered => exact ordered
  case within => exact inside
  case reaches =>
    intro cycle later earlier
    obtain ⟨valid, payload, -⟩ := shown cycle later earlier
    obtain ⟨same, relocated⟩ := ticked_eq kind offers cycle channel
    exact ⟨same.trans valid, by rw [relocated, payload]⟩
  case waits => exact waits
  case uncounted => exact fun cycle later earlier => (shown cycle later earlier).2.2
  case closes =>
    -- It was accepted in its last cycle, or the cycles ran out while it was waiting.
    rcases ends with ready | ⟨busy, ended⟩
    · refine Or.inl ⟨ready, ?_⟩
      rw [counted, ready]
      rfl
    · refine Or.inr ⟨busy, ended, ?_⟩
      rw [← ended, counted, busy]
      rfl

/-- An offer that is shown has begun in some cycle, and was not accepted since. -/
theorem exists_begin (channel : Channel M) {cycle : Nat}
    (valid : kind.valid (offers cycle) = true) :
    ∃ first ≤ cycle, channel.beginsIn kind offers first = true ∧
      ∀ between, first ≤ between → between < cycle →
        channel.readyIn kind offers between = false := by
  -- The offer is followed back in time, as long as it waits before the cycle.
  induction cycle with
  | zero =>
    refine ⟨0, Nat.le_refl 0, by simp [beginsIn, waitsBefore, valid], ?_⟩
    intro between _ before
    exact absurd before (Nat.not_lt_zero between)
  | succ cycle ih =>
    cases waits : channel.waitsBefore kind offers (cycle + 1) with
    | false =>
      refine ⟨cycle + 1, Nat.le_refl _, by simp [beginsIn, waits, valid], ?_⟩
      intro between after before
      exact absurd before (Nat.not_lt.mpr after)
    | true =>
      -- What waits was shown in the cycle before, and was not accepted there.
      obtain ⟨shown, busy⟩ : kind.valid (offers cycle) = true ∧
          channel.readyIn kind offers cycle = false := by
        simpa [waitsBefore] using waits
      obtain ⟨first, before, begins, waited⟩ := ih shown
      refine ⟨first, Nat.le_succ_of_le before, begins, ?_⟩
      intro between after within
      rcases Nat.lt_succ_iff_lt_or_eq.mp within with earlier | same
      · exact waited between after earlier
      · rw [same]
        exact busy

/-- Every cycle in which an offer is shown is one of an offer that passes once. -/
theorem exists_passesOnce
    (unbroken : ∀ cycle < count, channel.breaksIn kind offers cycle = false) {cycle : Nat}
    (within : cycle < count) (valid : kind.valid (offers cycle) = true) :
    ∃ first last, channel.beginsIn kind offers first = true ∧
      channel.PassesOnce kind offers count first last ∧ first ≤ cycle ∧ cycle ≤ last := by
  obtain ⟨first, before, begins, waited⟩ := exists_begin channel valid
  obtain ⟨last, passes⟩ := passesOnce_of_begins unbroken (Nat.lt_of_le_of_lt before within) begins
  refine ⟨first, last, begins, passes, before, Nat.le_of_not_lt fun beyond => ?_⟩
  -- The offer cannot have ended before the cycle, since it was not accepted up to there.
  have busy := waited last passes.ordered beyond
  rcases passes.closes with ⟨ready, -⟩ | ⟨-, ended, -⟩
  · rw [busy] at ready
    cases ready
  · omega

/-- The offers that have begun are accepted and counted, but for one that may still wait. -/
theorem begins_eq
    (unbroken : ∀ cycle < count, channel.breaksIn kind offers cycle = false) :
    (List.range count).countP (fun cycle => channel.beginsIn kind offers cycle) +
        channel.acceptedBefore kind offers 0 =
      channel.acceptedBefore kind offers count +
        (channel.waitsBefore kind offers count).toNat := by
  -- What is shown in a cycle is accepted in it, or else still waits behind it.
  induction count with
  | zero => simp [waitsBefore]
  | succ count ih =>
    have earlier := ih fun cycle within => unbroken cycle (Nat.lt_succ_of_lt within)
    have last := unbroken count (Nat.lt_succ_self count)
    have begins : channel.beginsIn kind offers count =
        (kind.valid (offers count) && !channel.waitsBefore kind offers count) := rfl
    have next : channel.waitsBefore kind offers (count + 1) =
        (kind.valid (offers count) && !channel.readyIn kind offers count) := rfl
    -- An offer that waits is shown again, so it does not begin once more.
    have again : channel.waitsBefore kind offers count = true →
        kind.valid (offers count) = true := by
      intro waits
      simp only [breaksIn, waits, Bool.true_and, Bool.not_eq_false', Bool.and_eq_true] at last
      exact last.1
    rw [List.range_succ, List.countP_append, List.countP_singleton, acceptedBefore_succ, begins,
      next]
    cases waits : channel.waitsBefore kind offers count <;>
      cases valid : kind.valid (offers count) <;>
        cases channel.readyIn kind offers count <;>
          simp [waits, valid] at again earlier ⊢ <;> omega

end Unbroken

/--
Violations are counted exactly, and without one every offer reaches the memory once.

The memory behind the channel and what the design offers may be any.
In each cycle the memory is ticked with the relocated offers.
A violation is a cycle and a kind of which an offer that was shown before, while the design was told
to wait, is not shown again.
Without violations, every offer passes once, nothing else is shown to the memory as valid, and each
offer is counted as accepted, unless it still waits in the end.
-/
theorem offers_pass_once (base : UInt64) (index : Nat) (memory : M) (offers : Nat → Offers)
    (count : Nat) :
    let channel := ofMemory base index memory
    let violations := (channel.atCycle offers count).gate.tally.violations
    (∀ cycle, (channel.atCycle offers (cycle + 1)).memory =
      Memory.tick (channel.ticked offers cycle) (channel.atCycle offers cycle).memory) ∧
    violations = (List.range count ×ˢ OfferKind.all).countP
      (fun (cycle, kind) => channel.breaksIn kind offers cycle) ∧
    (violations = 0 → ∀ kind,
      (∀ first < count, channel.beginsIn kind offers first = true →
        ∃ last, channel.PassesOnce kind offers count first last) ∧
      (∀ cycle < count, kind.valid (channel.ticked offers cycle) = true →
        ∃ first last, channel.beginsIn kind offers first = true ∧
          channel.PassesOnce kind offers count first last ∧ first ≤ cycle ∧ cycle ≤ last) ∧
      channel.acceptedBefore kind offers count + (channel.waitsBefore kind offers count).toNat =
        (List.range count).countP fun cycle => channel.beginsIn kind offers cycle) := by
  intro channel violations
  -- On a channel without a past nothing waits, and nothing is counted.
  have fresh : channel.gate.waiting = {} := rfl
  refine ⟨fun _ => rfl, ?_, ?_⟩
  · have counted := violations_eq offers count fresh
    rw [show channel.gate.tally.violations = 0 from rfl, Nat.zero_add] at counted
    exact counted
  · intro none kind
    -- Without a violation, no offer of any kind has broken.
    have unbroken := unbroken_of_violations fresh none kind
    refine ⟨fun first within begins => passesOnce_of_begins unbroken within begins, ?_, ?_⟩
    · intro cycle within valid
      rw [(ticked_eq kind offers cycle channel).1] at valid
      exact exists_passesOnce unbroken within valid
    · have begins := begins_eq unbroken
      have nothing : channel.acceptedBefore kind offers 0 = 0 := by cases kind <;> rfl
      rw [nothing, Nat.add_zero] at begins
      exact begins.symm

end Cycles

end Channel

/-- A memory that is ready as listed, cycle by cycle, and notes what it is ticked with. -/
structure ListedMemory where
  readiness : List Ready
  ticks : List Offers := []

instance : Memory ListedMemory where
  presented memory := { ready := memory.readiness.headD {} }
  tick offers memory :=
    { readiness := memory.readiness.tail, ticks := memory.ticks ++ [offers] }
  cells _ := #[]
  withCells _ memory := memory

namespace Channel

/-- A read request waits for two cycles and is accepted once, while a beat waits to the end. -/
theorem offers_pass_once_of_listed :
    let request : AddressRequest := { valid := true, address := 0x180, id := 5, lastBeat := 1 }
    let beat : WriteBeat := { valid := true, data := [1, 2], strobe := 3, last := true }
    let offers : Nat → Offers := fun cycle =>
      { read := if cycle < 3 then request else {}, beat := if 0 < cycle then beat else {} }
    let channel := ofMemory 0x100 0 (ListedMemory.mk [{}, {}, { read := true }, {}] [])
    (channel.atCycle offers 4).memory.ticks.map Offers.read =
      List.replicate 3 { request with address := 0x80 } ++ [{ address := 0 - 0x100 }] ∧
    (channel.atCycle offers 4).gate.tally = { reads := 1 } ∧
    (∃ last, channel.PassesOnce .read offers 4 0 last) ∧
    (∃ last, channel.PassesOnce .beat offers 4 1 last) ∧
    channel.acceptedBefore .beat offers 4 + (channel.waitsBefore .beat offers 4).toNat =
      (List.range 4).countP fun cycle => channel.beginsIn .beat offers cycle := by
  intro request beat offers channel
  have tally : (channel.atCycle offers 4).gate.tally = { reads := 1 } := by decide +kernel
  have ticks : (channel.atCycle offers 4).memory.ticks.map Offers.read =
      List.replicate 3 { request with address := 0x80 } ++ [{ address := 0 - 0x100 }] := by
    decide +kernel
  -- The request is new in the first cycle, the beat in the second.
  have readBegins : channel.beginsIn .read offers 0 = true := by decide +kernel
  have beatBegins : channel.beginsIn .beat offers 1 = true := by decide +kernel
  have none : (channel.atCycle offers 4).gate.tally.violations = 0 := by rw [tally]
  -- No offer was altered while it waited, so each is followed to its end.
  have passes := (offers_pass_once 0x100 0 (ListedMemory.mk [{}, {}, { read := true }, {}] [])
    offers 4).2.2 none
  exact ⟨ticks, tally, (passes .read).1 0 (by decide) readBegins,
    (passes .beat).1 1 (by decide) beatBegins, (passes .beat).2.2⟩

end Channel

end Testbench
