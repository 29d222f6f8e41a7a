import Testbench.Proofs.Memory.Lanes

/-! The transfers of a burst that fits into a memory, and the cells that they take. -/

namespace Testbench.Memory

/-- A cell holds one of the bytes written to it, or its old byte when there is none. -/
theorem getElem?_writeCells_or {cell : Nat} (writes : List (Nat × UInt8)) {cells : Array UInt8}
    (there : cell < cells.size) :
    (∃ byte, (cell, byte) ∈ writes ∧ (writeCells writes cells)[cell]? = some byte) ∨
      (∀ byte, (cell, byte) ∉ writes) ∧ (writeCells writes cells)[cell]? = cells[cell]? := by
  induction writes generalizing cells with
  | nil => exact Or.inr ⟨fun _ => List.not_mem_nil, rfl⟩
  | cons write writes ih =>
    obtain ⟨first, value⟩ := write
    have unfolded : writeCells ((first, value) :: writes) cells =
        writeCells writes (cells.setIfInBounds first value) := rfl
    rw [unfolded]
    have still : cell < (cells.setIfInBounds first value).size := by simpa using there
    rcases ih still with ⟨byte, later, held⟩ | ⟨none_later, same⟩
    · exact Or.inl ⟨byte, List.mem_cons_of_mem _ later, held⟩
    -- Only the first write may be to this cell.
    · by_cases hit : first = cell
      · subst hit
        refine Or.inl ⟨value, List.mem_cons_self, same.trans ?_⟩
        simp [there]
      · refine Or.inr ⟨fun byte written => ?_, same.trans ?_⟩
        · rcases List.mem_cons.mp written with now | later
          · exact hit (Prod.mk.inj now).1.symm
          · exact none_later byte later
        · exact Array.getElem?_setIfInBounds_ne hit

/-- The address of a transfer in a burst, when the transfers follow one another without a gap. -/
def transferStart (request : AddressRequest) (position : Nat) : Nat :=
  request.address.toNat + position * 2 ^ request.size.toNat

/-- The lanes of a transfer, which lie side by side on the bus. -/
def Moves (width : Nat) (request : AddressRequest) (position lane : Nat) : Prop :=
  let first := transferStart request position % width
  first ≤ lane ∧ lane < first + 2 ^ request.size.toNat

/-- Addresses that are less than the capacity apart do not share a cell. -/
theorem eq_of_mod_eq {capacity start first second : Nat}
    (same : first % capacity = second % capacity) (first_ge : start ≤ first)
    (first_lt : first < start + capacity) (second_ge : start ≤ second)
    (second_lt : second < start + capacity) : first = second := by
  have above := Nat.sub_mod_eq_zero_of_mod_eq same
  have below := Nat.sub_mod_eq_zero_of_mod_eq same.symm
  -- Both differences are multiples of the capacity, and too small to be other than zero.
  rw [Nat.mod_eq_of_lt (by omega)] at above below
  omega

/-- The first address of a bus word and the lane make up an address. -/
theorem wordStart_add (width address : Nat) : wordStart width address + address % width = address :=
  -- The word starts where the remainder is taken off.
  Nat.sub_add_cancel (Nat.mod_le address width)

/-- Bus words start at the multiples of the width. -/
theorem wordStart_eq (width address : Nat) :
    wordStart width address = address / width * width := by
  -- An address is its quotient times the width, and the remainder.
  have whole := Nat.div_add_mod' address width
  unfold wordStart
  omega

/-- The width divides the first address of a bus word. -/
theorem dvd_wordStart (width address : Nat) : width ∣ wordStart width address := by
  rw [wordStart_eq]
  exact Nat.dvd_mul_left _ _

/-- A cell is found by its address alone. -/
theorem cellOf_eq (capacity start lane : Nat) :
    cellOf capacity start lane = (start + lane) % capacity :=
  -- The start is reduced first, which makes no difference to the sum.
  Nat.mod_add_mod ..

/-- A cell tells the word that it is in when words do not wrap around. -/
theorem cellOf_inj {capacity width start start' lane lane' : Nat} (filled : 0 < capacity)
    (whole : width ∣ capacity) (aligned : width ∣ start) (aligned' : width ∣ start')
    (onBus : lane < width) (onBus' : lane' < width)
    (same : cellOf capacity start lane = cellOf capacity start' lane') :
    start % capacity = start' % capacity := by
  -- The word is read off its cell by rounding down, as no word crosses the capacity.
  have word : ∀ {start lane}, width ∣ start → lane < width →
      cellOf capacity start lane / width * width = start % capacity := by
    intro start lane aligned onBus
    have positive := Nat.zero_lt_of_lt onBus
    obtain ⟨words, capacity_eq⟩ := whole
    obtain ⟨index, start_eq⟩ := aligned
    have words_pos : 0 < words := Nat.pos_of_mul_pos_left (capacity_eq ▸ filled)
    have first : start % capacity = width * (index % words) := by
      rw [start_eq, capacity_eq, Nat.mul_mod_mul_left]
    -- The last word still ends within the capacity, so the sum is not reduced again.
    have last := Nat.mul_le_mul_left width (Nat.mod_lt index words_pos)
    rw [Nat.mul_succ, ← capacity_eq] at last
    rw [cellOf, first, Nat.mod_eq_of_lt (by omega), Nat.mul_add_div positive,
      Nat.div_eq_of_lt onBus, Nat.add_zero, Nat.mul_comm]
  rw [← word aligned onBus, ← word aligned' onBus', same]

namespace Ideal

/-- A memory at rest, and a request for an aligned burst that fits into it. -/
structure Fits (memory : Ideal) (request : AddressRequest) : Prop where
  idle : memory.burst = none
  unread : memory.reads.toList = []
  width : ∃ exponent ≤ 6, memory.width = 2 ^ exponent
  capacity : memory.width ∣ memory.cells.size
  valid : request.valid = true
  size : 2 ^ request.size.toNat ≤ memory.width
  aligned : 2 ^ request.size.toNat ∣ request.address.toNat
  inside : request.beats * 2 ^ request.size.toNat ≤ memory.cells.size
  /-- The burst does not pass the last address. -/
  below : request.address.toNat + request.beats * 2 ^ request.size.toNat ≤ addressCount

/-- The cell behind a lane of a transfer. -/
def transferCell (memory : Ideal) (request : AddressRequest) (position lane : Nat) : Nat :=
  cellOf memory.cells.size (wordStart memory.width (transferStart request position)) lane

section Fitting

variable {memory : Ideal} {request : AddressRequest}

/-- The bus has lanes, and each of them has a number of its own. -/
theorem Fits.wide (fits : memory.Fits request) : memory.width ≠ 0 ∧ memory.width ≤ laneCount := by
  obtain ⟨exponent, small, width⟩ := fits.width
  -- The exponent is at most six, while lanes can be numbered up to that of thirty-two.
  have most : 2 ^ exponent ≤ 2 ^ 32 := Nat.pow_le_pow_right (by decide) (by omega)
  rw [width]
  exact ⟨(Nat.two_pow_pos exponent).ne', most⟩

/-- The width of a transfer divides the width of the bus. -/
theorem Fits.divides (fits : memory.Fits request) : 2 ^ request.size.toNat ∣ memory.width := by
  obtain ⟨exponent, -, width⟩ := fits.width
  have size := fits.size
  rw [width] at size ⊢
  -- Of two powers of two the smaller one divides the larger one.
  exact Nat.pow_dvd_pow 2 ((Nat.pow_le_pow_iff_right (by decide)).mp size)

/-- A memory into which a burst fits has cells. -/
theorem Fits.filled (fits : memory.Fits request) : 0 < memory.cells.size :=
  -- The burst has at least one beat of at least one byte.
  Nat.lt_of_lt_of_le (Nat.mul_pos (Nat.succ_pos _) (Nat.two_pow_pos _)) fits.inside

/-- Transfers are as wide as the request asks for. -/
theorem Fits.moved (fits : memory.Fits request) :
    2 ^ min request.size.toNat (padicValNat 2 memory.width) = 2 ^ request.size.toNat := by
  -- The width asked for divides the bus, so it is not narrowed.
  rw [← movedBytes_eq fits.wide.1, movedBytes, Nat.one_shiftLeft,
    Nat.gcd_eq_left fits.divides]

/-- A transfer ends where the next one starts, or before. -/
theorem transferStart_mono (request : AddressRequest) {position later : Nat}
    (before : position < later) :
    transferStart request position + 2 ^ request.size.toNat ≤ transferStart request later := by
  -- There is at least one step between the two, as wide as a transfer.
  have steps := Nat.mul_le_mul_right (2 ^ request.size.toNat) before
  rw [Nat.succ_mul] at steps
  unfold transferStart
  omega

/-- A transfer stays within one bus word. -/
theorem Fits.onBus (fits : memory.Fits request) {position lane : Nat}
    (moves : Moves memory.width request position lane) : lane < memory.width := by
  have start : 2 ^ request.size.toNat ∣ transferStart request position % memory.width :=
    (Nat.dvd_mod_iff fits.divides).mpr (Nat.dvd_add fits.aligned (Nat.dvd_mul_left _ _))
  have first := Nat.mod_lt (transferStart request position) (Nat.pos_of_ne_zero fits.wide.1)
  -- The bus is made of equal parts, and the lanes of the transfer are one of them.
  obtain ⟨parts, bus⟩ := fits.divides
  obtain ⟨part, lanes⟩ := start
  rw [lanes, bus] at first
  have last := Nat.mul_le_mul_left (2 ^ request.size.toNat) (Nat.lt_of_mul_lt_mul_left first)
  rw [← bus, Nat.mul_succ, ← lanes] at last
  exact Nat.lt_of_lt_of_le moves.2 last

/-- The address behind a lane of a transfer is one of those of the transfer. -/
theorem address_of_moves {width position lane : Nat} (moves : Moves width request position lane) :
    transferStart request position ≤ wordStart width (transferStart request position) + lane ∧
      wordStart width (transferStart request position) + lane <
        transferStart request position + 2 ^ request.size.toNat := by
  -- The lanes moved begin with that of the address and are as many as the transfer has.
  have start := wordStart_add width (transferStart request position)
  obtain ⟨first, last⟩ := moves
  omega

/-- No two lanes of the transfers of a burst share a cell. -/
theorem Fits.unique (fits : memory.Fits request) {position other lane lane' : Nat}
    (within : position < request.beats) (within' : other < request.beats)
    (moves : Moves memory.width request position lane)
    (moves' : Moves memory.width request other lane')
    (same : memory.transferCell request position lane = memory.transferCell request other lane') :
    position = other ∧ lane = lane' := by
  obtain ⟨first, last⟩ := address_of_moves moves
  obtain ⟨first', last'⟩ := address_of_moves moves'
  have starts : ∀ position, request.address.toNat ≤ transferStart request position :=
    fun _ => Nat.le_add_right _ _
  have ends : _ ≤ transferStart request request.beats := transferStart_mono request within
  have ends' : _ ≤ transferStart request request.beats := transferStart_mono request within'
  have inside : transferStart request request.beats ≤
      request.address.toNat + memory.cells.size := Nat.add_le_add_left fits.inside _
  rw [transferCell, transferCell, cellOf_eq, cellOf_eq] at same
  -- All addresses of the burst are less than the capacity apart, so the two are the same one.
  have addresses := eq_of_mod_eq same (Nat.le_trans (starts position) first) (by omega)
    (Nat.le_trans (starts other) first') (by omega)
  -- Transfers at different positions do not overlap.
  have positions : position = other := by
    rw [addresses] at first last
    rcases Nat.lt_trichotomy position other with earlier | same | later
    · have apart := transferStart_mono request earlier
      omega
    · exact same
    · have apart := transferStart_mono request later
      omega
  rw [positions] at addresses
  exact ⟨positions, by omega⟩

end Fitting

end Ideal

end Testbench.Memory
