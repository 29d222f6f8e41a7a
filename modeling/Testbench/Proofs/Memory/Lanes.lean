import Mathlib.Data.Nat.MaxPowDiv
import Mathlib.Data.Nat.Prime.Basic
import Testbench.Memory.Ideal

/-! The beats of a burst as the lanes that they read, and as the writes of single cells. -/

namespace Testbench.Memory

/-- The bytes moved by a beat, at most as many as the largest power of two in the bus width. -/
theorem movedBytes_eq {width : Nat} (wide : width ≠ 0) (request : AddressRequest) :
    movedBytes width request = 2 ^ min request.size.toNat (padicValNat 2 width) := by
  -- A common divisor with a power of two is a power of two itself.
  obtain ⟨exponent, small, same⟩ := (Nat.dvd_prime_pow Nat.prime_two).mp
    (Nat.gcd_dvd_left (2 ^ request.size.toNat) width)
  have divides : 2 ^ exponent ∣ width := by
    rw [← same]
    exact Nat.gcd_dvd_right (2 ^ request.size.toNat) width
  have below : exponent ≤ padicValNat 2 width :=
    (Nat.pow_dvd_iff_le_padicValNat (by decide) wide).mp divides
  -- The greatest one has the greatest exponent that both allow.
  have largest : 2 ^ min request.size.toNat (padicValNat 2 width) ∣ 2 ^ exponent := by
    rw [← same]
    refine Nat.dvd_gcd (Nat.pow_dvd_pow 2 (Nat.min_le_left _ _)) ?_
    exact (Nat.pow_dvd_iff_le_padicValNat (by decide) wide).mpr (Nat.min_le_right _ _)
  have above := (Nat.pow_dvd_pow_iff_le_right (by decide)).mp largest
  rw [movedBytes, Nat.one_shiftLeft, same]
  congr 1
  omega

/-- A bus with no more lanes than there are numbers for them has each number once. -/
theorem laneOf_eq {width : Nat} (wide : width ≠ 0) (narrow : width ≤ laneCount) (address : Nat) :
    laneOf width address = address % width := by
  -- A remainder below the width is below the number of lanes, and is not cut off.
  have lane := Nat.mod_lt address (Nat.pos_of_ne_zero wide)
  exact Nat.mod_eq_of_lt (by omega)

/-- A lane of a read beat holds the contents of one cell, when there are cells. -/
theorem burstBeats_lane {cells : Array UInt8} (filled : 0 < cells.size) {width : Nat}
    {request : AddressRequest} {position : Nat} (within : position ≤ request.lastBeat.toNat)
    {lane : Nat} (onBus : lane < width) :
    let address := request.address.toNat
    let start := (address - address % width + position * width) % 2 ^ 64 % cells.size
    ((burstBeats cells width request)[position]?.bind fun beat => beat.data[lane]?) =
      cells[(start + lane) % cells.size]? := by
  intro address start
  have cell : (start + lane) % cells.size < cells.size := Nat.mod_lt _ filled
  have among : position < request.beats := Nat.lt_succ_of_le within
  rw [burstBeats, List.getElem?_map, List.getElem?_range among, Option.map_some,
    Option.bind_some]
  simp only [readWord]
  rw [List.getElem?_map, List.getElem?_range onBus, Option.map_some]
  -- A cell that exists is not replaced by zero.
  rw [Array.getD_eq_getD_getElem?, Array.getElem?_eq_getElem cell]
  exact congrArg some (congrArg (fun found : Option UInt8 => found.getD 0)
    (Array.getElem?_eq_getElem cell))

/-- Stores bytes in single cells, one after another. -/
def writeCells (writes : List (Nat × UInt8)) (cells : Array UInt8) : Array UInt8 :=
  writes.foldl (fun cells (cell, byte) => cells.setIfInBounds cell byte) cells

/-- Stores keep the number of cells. -/
theorem size_writeCells (writes : List (Nat × UInt8)) (cells : Array UInt8) :
    (writeCells writes cells).size = cells.size := by
  -- The cells are generalised, as each store leaves the cells for the next one.
  induction writes generalizing cells with
  | nil => rfl
  | cons write writes ih =>
    rw [writeCells, List.foldl_cons]
    exact (ih _).trans Array.size_setIfInBounds

/-- Stores in a row are the stores of the first part and then those of the second. -/
theorem writeCells_append (first second : List (Nat × UInt8)) (cells : Array UInt8) :
    writeCells (first ++ second) cells = writeCells second (writeCells first cells) := by
  -- The stores are folded over the cells from the first to the last.
  rw [writeCells, List.foldl_append]
  rfl

/--
The cells stored by a beat at a position of a write burst, with their bytes, lane by lane.

Narrow beats move on by less than a bus word, and store the lanes of their own addresses only.
-/
def beatWrites (capacity width : Nat) (request : AddressRequest) (position : Nat)
    (beat : WriteBeat) : List (Nat × UInt8) :=
  let moved := 2 ^ min request.size.toNat (padicValNat 2 width)
  let address := (request.address.toNat + position * moved) % 2 ^ 64
  (beat.data.take width).zipIdx.filterMap fun (byte, lane) =>
    if beat.strobe.toNat.testBit lane ∧ address % width ≤ lane ∧
        lane < address % width + moved then
      some (((address - address % width) % capacity + lane) % capacity, byte)
    else none

/-- Lanes that are stored one by one, when it is their turn, are stored in single cells. -/
theorem foldl_stores_eq (stores : Nat → Bool) (cellIn : (capacity lane : Nat) → Nat)
    (lanes : List (UInt8 × Nat)) (cells : Array UInt8) :
    lanes.foldl (fun cells (byte, lane) =>
        if stores lane then cells.setIfInBounds (cellIn cells.size lane) byte else cells) cells =
      writeCells (lanes.filterMap fun (byte, lane) =>
        if stores lane then some (cellIn cells.size lane, byte) else none) cells := by
  induction lanes generalizing cells with
  | nil => rfl
  | cons item lanes ih =>
    obtain ⟨byte, lane⟩ := item
    rw [List.foldl_cons, ih]
    -- A store leaves the capacity as it is, and with it the cells of the other lanes.
    cases stored : stores lane with
    | true => simp [stored, writeCells]
    | false => simp [stored]

/-- Storing a beat at its address in the burst stores single cells. -/
theorem storeBeat_eq {width : Nat} (wide : width ≠ 0) (narrow : width ≤ laneCount)
    (cells : Array UInt8) (request : AddressRequest) (position : Nat) (beat : WriteBeat) :
    storeBeat cells width (movedBytes width request)
        ((request.address.toNat + position * movedBytes width request) % addressCount) beat =
      writeCells (beatWrites cells.size width request position beat) cells := by
  let moved := movedBytes width request
  let address := (request.address.toNat + position * moved) % addressCount
  refine (foldl_stores_eq (storesLane width moved address beat.strobe)
    (fun capacity => cellOf capacity (wordStart width address)) _ cells).trans ?_
  rw [beatWrites]
  congr 2
  funext ⟨byte, lane⟩
  -- The same lanes are stored, in the same cells.
  simp only [address, moved, storesLane, laneOf_eq wide narrow, movedBytes_eq wide,
    Bool.and_eq_true, decide_eq_true_eq, and_assoc]
  rfl

/-- Storing a beat keeps the number of cells. -/
theorem size_storeBeat (cells : Array UInt8) (width moved address : Nat) (beat : WriteBeat) :
    (storeBeat cells width moved address beat).size = cells.size := by
  -- A beat is a number of single stores, none of which adds or removes a cell.
  have single := foldl_stores_eq (storesLane width moved address beat.strobe)
    (fun capacity => cellOf capacity (wordStart width address)) (beat.data.take width).zipIdx cells
  exact (congrArg Array.size single).trans (size_writeCells _ cells)

end Testbench.Memory
