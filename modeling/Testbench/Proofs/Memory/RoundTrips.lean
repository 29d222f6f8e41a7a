import Testbench.Proofs.Memory.Bursts

/-! Which beats of a read burst bring back what a write burst has stored. -/

namespace Testbench.Memory.Ideal

variable {memory : Ideal} {request : AddressRequest}

/-- The beat of a read burst that carries the word of a transfer. -/
def beatOf (width : Nat) (request : AddressRequest) (position : Nat) : Nat :=
  (request.address.toNat % width + position * 2 ^ request.size.toNat) / width

/-- The word of a transfer is carried by a beat of the read burst. -/
theorem Fits.readStart_beatOf (fits : memory.Fits request) {position : Nat}
    (within : position < request.beats) :
    beatOf memory.width request position < request.beats ∧
      readStart memory.width request (beatOf memory.width request position) =
        wordStart memory.width (transferStart request position) := by
  let address := request.address.toNat
  have wide : 0 < memory.width := Nat.pos_of_ne_zero fits.wide.1
  have size := fits.size
  have lane := Nat.mod_lt address wide
  -- A transfer is no wider than a word, so reading is never behind writing.
  have early : beatOf memory.width request position ≤ position := by
    refine Nat.le_of_lt_succ ((Nat.div_lt_iff_lt_mul wide).mpr ?_)
    have narrow := Nat.mul_le_mul_left position size
    rw [Nat.succ_mul]
    show address % memory.width + position * 2 ^ request.size.toNat < _
    omega
  refine ⟨Nat.lt_of_le_of_lt early within, ?_⟩
  have transfer : transferStart request position =
      address % memory.width + position * 2 ^ request.size.toNat +
        memory.width * (address / memory.width) := by
    have whole := Nat.mod_add_div address memory.width
    show address + _ = _
    omega
  have start : wordStart memory.width address +
      beatOf memory.width request position * memory.width =
        wordStart memory.width (transferStart request position) := by
    rw [wordStart_eq, wordStart_eq, transfer, Nat.add_mul_div_left _ _ wide, Nat.add_mul,
      Nat.add_comm]
    rfl
  -- The transfer is below the last address, and so is the start of its word.
  have ends : _ ≤ transferStart request request.beats := transferStart_mono request within
  have below : transferStart request request.beats ≤ addressCount := fits.below
  have positive := Nat.two_pow_pos request.size.toNat
  have word := wordStart_add memory.width (transferStart request position)
  rw [readStart, start, Nat.mod_eq_of_lt (by omega)]

/-- The lanes of a burst that was written come back in the read beats that carry them. -/
def Returns (memory : Ideal) (request : AddressRequest) (carrier : Nat → Nat) : Prop :=
  ∀ beats trace reading, Writes request beats trace memory →
    Strobed memory.width request beats → Rereads request reading →
      ∀ position < request.beats, ∀ lane, Moves memory.width request position lane →
        ((answered trace reading memory)[carrier position]?.bind fun beat => beat.data[lane]?) =
          beats[position]?.bind fun beat => beat.data[lane]?

/-- The lanes of a transfer come back wherever a beat of the read burst carries its word. -/
theorem Fits.returns_of_carries (fits : memory.Fits request) {carrier : Nat → Nat}
    (carries : ∀ position < request.beats, carrier position < request.beats ∧
      readStart memory.width request (carrier position) % memory.cells.size =
        wordStart memory.width (transferStart request position) % memory.cells.size) :
    memory.Returns request carrier := by
  intro beats trace reading writes strobed rereads position within lane moves
  obtain ⟨among, same⟩ := carries position within
  -- The byte read is that of the same cell, and the cell holds what was written there.
  rw [fits.answered_lane writes rereads among (fits.onBus moves),
    ← fits.written writes strobed within moves, transferCell, cellOf, same, cellOf]

/-- Read beats carry whole words, also behind the last address. -/
theorem Fits.dvd_readStart (fits : memory.Fits request) (position : Nat) :
    memory.width ∣ readStart memory.width request position := by
  obtain ⟨exponent, small, width⟩ := fits.width
  -- The width is a power of two below the number of addresses, so wrapping keeps it a divisor.
  have addresses : memory.width ∣ addressCount := by
    have power : addressCount = 2 ^ 64 := rfl
    rw [width, power]
    exact Nat.pow_dvd_pow 2 (by omega)
  exact (Nat.dvd_mod_iff addresses).mpr
    (Nat.dvd_add (dvd_wordStart _ _) (Nat.dvd_mul_left _ _))

/-- All lanes may be stored. -/
def fullStrobe : UInt64 := UInt64.ofNat (2 ^ 64 - 1)

/-- Whole beats for a burst, with one byte in the beat at a position and another one elsewhere. -/
def marked (width count position : Nat) (mark other : UInt8) : List WriteBeat :=
  (List.range count).map fun index =>
    { valid := true
      data := List.replicate width (if index = position then mark else other)
      strobe := fullStrobe
      last := index + 1 = count }

/-- The bytes of a beat at the position of the mark are the mark. -/
theorem data_marked {width count position index lane : Nat} {mark other : UInt8}
    (within : index < count) (onBus : lane < width) :
    ((marked width count position mark other)[index]?.bind fun beat => beat.data[lane]?) =
      some (if index = position then mark else other) := by
  -- Each beat of the pattern has the same byte in all of its lanes.
  simp [marked, List.getElem?_range within, onBus]

/-- All the lanes of whole beats are stored. -/
theorem Fits.strobed_marked (fits : memory.Fits request) (position : Nat) (mark other : UInt8) :
    Strobed memory.width request (marked memory.width request.beats position mark other) := by
  intro index beat found
  obtain ⟨number, -, rfl⟩ := List.mem_map.mp (List.mem_of_getElem? found)
  refine ⟨List.length_replicate, fun lane moves => ?_⟩
  -- The strobe has a bit for each lane of the widest bus.
  obtain ⟨exponent, small, width⟩ := fits.width
  have onBus := fits.onBus moves
  have widest : 2 ^ exponent ≤ 2 ^ 6 := Nat.pow_le_pow_right (by decide) small
  have strobe : fullStrobe.toNat = 2 ^ 64 - 1 := rfl
  rw [strobe, Nat.testBit_two_pow_sub_one, decide_eq_true_eq]
  omega

/-- A burst comes back beat by beat only if the beats carry the words of their own transfers. -/
theorem Fits.carries_of_returns (fits : memory.Fits request)
    (returns : memory.Returns request id) {position : Nat} (within : position < request.beats) :
    readStart memory.width request position % memory.cells.size =
      wordStart memory.width (transferStart request position) % memory.cells.size := by
  let lane := transferStart request position % memory.width
  have moves : Moves memory.width request position lane :=
    ⟨Nat.le_refl _, Nat.lt_add_of_pos_right (Nat.two_pow_pos _)⟩
  have onBus := fits.onBus moves
  let cell := cellOf memory.cells.size (readStart memory.width request position) lane
  have there : cell < memory.cells.size := Nat.mod_lt _ fits.filled
  -- The beat at the position has another byte than the cell and all other beats.
  let old := memory.cells[cell]
  let mark : UInt8 := if old = 0 then 1 else 0
  have different : mark ≠ old := by
    by_cases zero : old = 0
    · simp [mark, zero]
    · simpa [mark, zero] using Ne.symm zero
  let beats := marked memory.width request.beats position mark old
  have count : beats.length = request.beats := by simp [beats, marked]
  have valid : ∀ beat ∈ beats, beat.valid = true := by simp [beats, marked]
  have writes := fits.writes_writing count valid
  have rereads : Rereads request { read := request } := ⟨fits.valid, rfl, rfl, rfl⟩
  have back := returns beats _ _ writes (fits.strobed_marked position mark old) rereads position
    within lane moves
  rw [id, fits.answered_lane writes rereads within onBus, data_marked within onBus,
    if_pos rfl] at back
  rcases fits.cell_run writes (fits.strobed_marked position mark old) there with
    ⟨other, within', lane', moves', cell_eq, held⟩ | ⟨-, same⟩
  · -- Only the beat at the position has the byte that comes back, and it writes its own word.
    have same : other = position := by
      by_contra elsewhere
      rw [data_marked within' (fits.onBus moves'), if_neg elsewhere] at held
      exact different (Option.some.inj (back.symm.trans held))
    rw [same] at cell_eq moves'
    exact cellOf_inj fits.filled fits.capacity (fits.dvd_readStart position)
      (dvd_wordStart _ _) onBus (fits.onBus moves') cell_eq
  · -- A cell that is not written cannot bring the byte back.
    rw [same, Array.getElem?_eq_getElem there] at back
    exact absurd (Option.some.inj back).symm different

/-- A burst comes back beat by beat if each of its transfers has a bus word to itself. -/
theorem Fits.returns_of_words (fits : memory.Fits request)
    (words : 2 ^ request.size.toNat = memory.width ∨ request.lastBeat = 0) :
    memory.Returns request id := by
  have wide : 0 < memory.width := Nat.pos_of_ne_zero fits.wide.1
  have same : ∀ position < request.beats, beatOf memory.width request position = position := by
    intro position within
    unfold beatOf
    rcases words with whole | single
    · -- Words of full width are aligned to the bus.
      have aligned := fits.aligned
      rw [whole] at aligned ⊢
      rw [Nat.mod_eq_zero_of_dvd aligned, Nat.zero_add, Nat.mul_div_cancel _ wide]
    · have first : position = 0 := by
        rw [AddressRequest.beats, single] at within
        exact Nat.lt_one_iff.mp within
      rw [first, Nat.zero_mul, Nat.add_zero, Nat.div_eq_of_lt (Nat.mod_lt _ wide)]
  refine fits.returns_of_carries fun position within => ⟨within, ?_⟩
  have carried := (fits.readStart_beatOf within).2
  rw [same position within] at carried
  exact congrArg (· % memory.cells.size) carried

/--
Of a burst that was written, every lane comes back in the read beat that carries its word.

That is the beat of the same position if each transfer has a bus word to itself.
In general, the burst comes back beat by beat exactly if, for each position, the words that are read
and written start at the same cell.
-/
theorem returns_of_fits (fits : memory.Fits request) :
    memory.Returns request (beatOf memory.width request) ∧
      (memory.Returns request id ↔ ∀ position < request.beats,
        readStart memory.width request position % memory.cells.size =
          wordStart memory.width (transferStart request position) % memory.cells.size) ∧
      (2 ^ request.size.toNat = memory.width ∨ request.lastBeat = 0 →
        memory.Returns request id) := by
  refine ⟨?_, ⟨fun returns _ => fits.carries_of_returns returns, fun carries => ?_⟩,
    fits.returns_of_words⟩
  · -- A beat of the read burst carries the word if it is the one its address points to.
    refine fits.returns_of_carries fun position within => ?_
    obtain ⟨among, start⟩ := fits.readStart_beatOf within
    exact ⟨among, congrArg (· % memory.cells.size) start⟩
  · -- Position by position, each beat carries its own word.
    exact fits.returns_of_carries fun position within => ⟨within, carries position within⟩

/-- A burst fits into a new memory of eight words. -/
theorem fits_holding {request : AddressRequest} (valid : request.valid = true)
    (size : 2 ^ request.size.toNat ≤ 8) (aligned : 2 ^ request.size.toNat ∣ request.address.toNat)
    (inside : request.beats * 2 ^ request.size.toNat ≤ 64)
    (below : request.address.toNat + request.beats * 2 ^ request.size.toNat ≤ addressCount) :
    (holding (Array.replicate 64 0) 8).Fits request where
  -- The width is eight, and a new memory has nothing in flight and nothing queued.
  idle := rfl
  unread := rfl
  width := ⟨3, by decide, rfl⟩
  capacity := ⟨8, by simp [holding]⟩
  valid := valid
  size := size
  aligned := aligned
  inside := by simpa [holding] using inside
  below := below

/-- A burst of three whole words comes back from behind the middle of a memory. -/
theorem returns_of_whole_words :
    let memory := holding (Array.replicate 64 0) 8
    let request : AddressRequest := { valid := true, address := 40, size := 3, lastBeat := 2 }
    memory.Fits request ∧ memory.Returns request id := by
  intro memory request
  -- The three words from byte forty on end with the memory.
  have fits : memory.Fits request :=
    fits_holding rfl (by decide) (by decide) (by decide) (by decide)
  exact ⟨fits, (returns_of_fits fits).2.2 (Or.inl rfl)⟩

/-- Two narrow transfers share the first word of a memory, but the beats to read them do not. -/
theorem not_returns_of_narrow_transfers :
    let memory := holding (Array.replicate 64 0) 8
    let request : AddressRequest := { valid := true, lastBeat := 1 }
    memory.Fits request ∧ ¬memory.Returns request id := by
  intro memory request
  have fits : memory.Fits request :=
    fits_holding rfl (by decide) (by decide) (by decide) (by decide)
  refine ⟨fits, fun returns => ?_⟩
  let beats := marked 8 2 1 1 0
  have writes : Writes request beats (writing request beats) memory :=
    fits.writes_writing rfl (by decide)
  have moves : Moves 8 request 1 1 := ⟨Nat.le_refl 1, Nat.lt_succ_self 1⟩
  have back := returns beats _ { read := request } writes (fits.strobed_marked 1 1 0)
    ⟨rfl, rfl, rfl, rfl⟩ 1 (by decide) 1 moves
  -- The second read beat shows the second word, where nothing was ever written.
  revert back
  decide +kernel

end Testbench.Memory.Ideal
