import Mathlib.Data.Set.Function
import Testbench.Proofs.Image.Rendering

/-! Stores of whole turns leave no gap: they take an image up to their whole capacity. -/

namespace Testbench.Image

section Placement

variable {turn stores capacity : Nat}

/-- Stores of whole turns have a slot for an address exactly if it is below their capacity. -/
theorem slotOf_within_iff (positive : 0 < turn) (whole : turn ∣ capacity) (address : Nat) :
    (slotOf turn stores address).store < stores ∧ (slotOf turn stores address).offset < capacity ↔
      address < stores * capacity := by
  rcases Nat.eq_zero_or_pos stores with rfl | some
  · simp
  obtain ⟨turns, rfl⟩ := whole
  have among : (slotOf turn stores address).store < stores := Nat.mod_lt _ some
  -- The turns before the one of the address are counted in rounds of all the stores.
  have rounds := (split_block (Nat.mod_lt address positive) (address / turn / stores)).1
  calc
    _ ↔ (slotOf turn stores address).offset < turns * turn := by
      rw [Nat.mul_comm turn turns]
      exact and_iff_right among
    _ ↔ (slotOf turn stores address).offset / turn < turns :=
      (Nat.div_lt_iff_lt_mul positive).symm
    _ ↔ address / turn / stores < turns := by rw [slotOf, rounds]
    _ ↔ address / turn < turns * stores := Nat.div_lt_iff_lt_mul some
    _ ↔ address < turns * stores * turn := Nat.div_lt_iff_lt_mul positive
    _ ↔ address < stores * (turn * turns) := by
      rw [Nat.mul_comm turns stores, Nat.mul_assoc, Nat.mul_comm turns turn]

/-- Addresses below the whole capacity and slots correspond to each other. -/
theorem bijOn_slotOf (positive : 0 < turn) (whole : turn ∣ capacity) :
    Set.BijOn (slotOf turn stores) {address | address < stores * capacity}
      {slot | slot.store < stores ∧ slot.offset < capacity} := by
  have inverse : Set.InvOn (addressOf turn stores) (slotOf turn stores)
      {address | address < stores * capacity}
      {slot | slot.store < stores ∧ slot.offset < capacity} :=
    ⟨fun address _ => addressOf_slotOf positive stores address,
      fun _ within => slotOf_addressOf positive within.1⟩
  -- The inverse is known, so it is enough that both directions stay within their bounds.
  refine inverse.bijOn (fun address => (slotOf_within_iff positive whole address).mpr) ?_
  intro slot within
  -- A slot within the stores is the slot of its own address.
  refine (slotOf_within_iff positive whole _).mp ?_
  rw [slotOf_addressOf positive within.1]
  exact within

end Placement

section Spelled

/-- An image that is read to its end, as lines of paired digits that spell some bytes. -/
structure Lines.Spells (image : Lines) (bytes : List UInt8) : Prop where
  whole : image.fault = none
  even : ∀ line ∈ image.lines, (digitsOf line).length % 2 = 0
  spelled : Spell image.pairs bytes

/-- A file that is written for some bytes is read as an image that spells them. -/
theorem WrittenFile.spells {chunks : List (List UInt8)} {text : List Char}
    (written : WrittenFile chunks text) :
    (Lines.ofBytes (Text.encode text)).Spells chunks.flatten := by
  obtain ⟨lines, read, even, spelled⟩ := written.read
  rw [read]
  -- Such a file is read to its end, its digits are paired and its pairs spell.
  exact ⟨rfl, even, spelled⟩

/-- A problem is listed if something is wrong. -/
theorem mem_problemIf {wrong : Bool} {address : Nat} {fault : SetupFault} {problem : Problem} :
    problem ∈ problemIf wrong address fault ↔ wrong = true ∧ problem = { address, fault } := by
  -- The list has that one problem or nothing.
  cases wrong <;> simp [problemIf]

variable {turn : Nat} {path : String} {stores : Stores} {image : Lines} {bytes : List UInt8}

/-- A byte at an address that is among the first lines is in one of them. -/
theorem exists_line {lines : List (List Char)} {address : Nat} (count : Nat)
    (within : count ≤ lines.length)
    (below : address < ((lines.take count).flatMap pairsOf).length) :
    ∃ index < count, ∃ pair, (pair, address) ∈
      (pairsOf (lines.getD index [])).zipIdx ((lines.take index).flatMap pairsOf).length := by
  -- The byte is in the last of these lines, or else among the lines before that.
  induction count with
  | zero => simp at below
  | succ count ih =>
    rw [length_pairs_succ within] at below
    rcases Nat.lt_or_ge address ((lines.take count).flatMap pairsOf).length with earlier | here
    · obtain ⟨index, before, found⟩ := ih (Nat.le_of_succ_le within) earlier
      exact ⟨index, Nat.lt_succ_of_lt before, found⟩
    · have inLine : address - ((lines.take count).flatMap pairsOf).length <
          (pairsOf (lines.getD count [])).length := by omega
      obtain ⟨pair, found⟩ : ∃ pair, (pairsOf (lines.getD count []))[address -
          ((lines.take count).flatMap pairsOf).length]? = some pair :=
        ⟨_, List.getElem?_eq_getElem inLine⟩
      refine ⟨count, Nat.lt_succ_self count, pair, ?_⟩
      exact List.mk_mem_zipIdx_iff_le_and_getElem?_sub.mpr ⟨here, found⟩

/-- A byte without a slot is a problem. -/
theorem Lines.mem_problems {address : Nat} (within : address < image.pairs.length)
    (missing : hasSlot turn address stores = false) :
    { address, fault := .imageOutOfRange address } ∈ image.problems turn path stores := by
  rw [pairs, ← List.take_length (l := image.lines)] at within
  -- The byte belongs to a pair of some line, and is numbered across all lines.
  obtain ⟨index, among, pair, found⟩ := exists_line _ (Nat.le_refl _) within
  refine List.mem_append_left _ (List.mem_flatMap.mpr ⟨index, List.mem_range.mpr among, ?_⟩)
  -- The problems of a pair stand behind those of its line, that of its slot last.
  refine List.mem_append_right _ (List.mem_flatMap.mpr ⟨_, found, List.mem_append_right _ ?_⟩)
  exact mem_problemIf.mpr ⟨by simp [missing], rfl⟩

/-- In an image that spells bytes, nothing but a missing slot is a problem. -/
theorem Lines.Spells.of_mem_problems (spells : image.Spells bytes) {problem : Problem}
    (among : problem ∈ image.problems turn path stores) :
    hasSlot turn problem.address stores = false ∧
      problem.fault = .imageOutOfRange problem.address := by
  rw [problems, spells.whole, Option.toList_none, List.map_nil, List.append_nil,
    List.mem_flatMap] at among
  obtain ⟨index, within, listed⟩ := among
  have text : image.lines.getD index [] ∈ image.lines := by simp [List.mem_range.mp within]
  rw [problemsAt, lineProblems, List.mem_append, List.mem_append] at listed
  rcases listed with (odd | empty) | pairs
  · -- All lines have paired digits.
    have uneven := (mem_problemIf.mp odd).1
    rw [spells.even _ text] at uneven
    cases uneven
  · -- Without stores there are no slots.
    obtain ⟨none, rfl⟩ := mem_problemIf.mp empty
    rw [Bool.and_eq_true, Array.isEmpty_iff] at none
    exact ⟨by simp [hasSlot, none.1], rfl⟩
  · obtain ⟨⟨pair, address⟩, found, wrong⟩ := List.mem_flatMap.mp pairs
    have digits := spells.spelled.isSome_of_mem
      (List.mem_flatMap.mpr ⟨_, text, List.fst_mem_of_mem_zipIdx found⟩)
    rw [Text.isSome_hexByte?] at digits
    rcases List.mem_append.mp wrong with malformed | missing
    · simp [mem_problemIf, digits] at malformed
    · obtain ⟨absent, rfl⟩ := mem_problemIf.mp missing
      exact ⟨by simpa using absent, rfl⟩

end Spelled

section Capacity

variable {turn capacity lineBytes : Nat} {stores : Stores} {image : Lines} {bytes : List UInt8}

/-- Stores of equal capacity have a slot for an address exactly if it is below their sum. -/
theorem hasSlot_iff_of_equal (equal : ∀ cells ∈ stores, cells.size = capacity)
    (positive : 0 < turn) (whole : turn ∣ capacity) (address : Nat) :
    hasSlot turn address stores = true ↔ address < stores.size * capacity := by
  rw [← slotOf_within_iff positive whole, hasSlot, decide_eq_true_eq]
  generalize slotOf turn stores.size address = slot
  -- Outside of the stores there is no slot, and inside they all are of one size.
  by_cases among : slot.store < stores.size
  · have size := equal _ (Array.getElem_mem among)
    simp [among, size]
  · simp [among]

/-- An image that spells bytes is loaded as a whole if all of them have slots. -/
theorem Lines.Spells.loads (spells : image.Spells bytes) (path : String)
    (there : ∀ address < bytes.length, hasSlot (turnBytes lineBytes) address stores = true) :
    let loaded := load image lineBytes path stores
    loaded.result = .ok bytes.length ∧
      Overwritten (turnBytes lineBytes) bytes stores loaded.stores := by
  obtain ⟨stored, outcome⟩ := exists_outcome lineBytes path stores image
  -- Without a problem all bytes are stored, and they are the spelled ones.
  have fine : image.problems (turnBytes lineBytes) path stores = [] :=
    Lines.problems_eq_nil spells.even (fun _ => spells.spelled.isSome_of_mem)
      (by rwa [spells.spelled.length]) spells.whole
  rw [fine] at outcome
  obtain rfl := outcome.spelled_all.unique spells.spelled
  exact ⟨outcome.result, outcome.stores⟩

/-- An image that spells bytes fails at the first address without a slot, if it gets there. -/
theorem Lines.Spells.fails (spells : image.Spells bytes) (path : String) {address : Nat}
    (within : address < bytes.length)
    (missing : hasSlot (turnBytes lineBytes) address stores = false)
    (first : ∀ other, hasSlot (turnBytes lineBytes) other stores = false → address ≤ other) :
    (load image lineBytes path stores).result = .error (.imageOutOfRange address) := by
  obtain ⟨stored, outcome⟩ := exists_outcome lineBytes path stores image
  rw [← spells.spelled.length] at within
  -- The byte without a slot is listed, so there is a first problem.
  have listed : _ ∈ image.problems (turnBytes lineBytes) path stores :=
    Lines.mem_problems within missing
  have sorted := (inOrder_problems (turnBytes lineBytes) path stores image).sorted
  have result := outcome.result
  cases found : image.problems (turnBytes lineBytes) path stores with
  | nil => simp [found] at listed
  | cons problem others =>
    -- The first problem is about a missing slot as well, and about no higher address.
    obtain ⟨absent, fault⟩ := spells.of_mem_problems (found ▸ List.mem_cons_self)
    have lowest : problem.address ≤ address := by
      rw [found] at listed sorted
      rcases List.mem_cons.mp listed with same | later
      · exact Nat.le_of_eq (congrArg Problem.address same.symm)
      · exact List.rel_of_pairwise_cons sorted later
    rw [found] at result
    simp only [result, fault, Nat.le_antisymm lowest (first _ absent)]

/--
Stores of whole turns have one slot for each address below their sum, and no other slots.

A file that is no larger is loaded, one that is as large replaces every byte, and every larger one
fails at the first byte beyond.
-/
theorem fills_whole_turns (equal : ∀ cells ∈ stores, cells.size = capacity)
    (whole : max lineBytes 1 ∣ capacity) (path : String) :
    let turn := max lineBytes 1
    let room := stores.size * capacity
    Set.BijOn (slotOf turn stores.size) {address | address < room}
        {slot | slot.store < stores.size ∧ slot.offset < capacity} ∧
      ∀ chunks text, WrittenFile chunks text →
        let bytes := chunks.flatten
        let loaded := load (.ofBytes (Text.encode text)) lineBytes path stores
        (loaded.result = .ok bytes.length ↔ bytes.length ≤ room) ∧
        (bytes.length = room → ∀ slot : Slot, slot.store < stores.size → slot.offset < capacity →
          ∃ address < bytes.length, slotOf turn stores.size address = slot ∧
            byteAt? loaded.stores slot = bytes[address]?) ∧
        (room < bytes.length → loaded.result = .error (.imageOutOfRange room)) := by
  intro turn room
  have positive : 0 < turn := turnBytes_pos lineBytes
  -- A slot is there for exactly the addresses below the room.
  have slots : ∀ address, hasSlot turn address stores = true ↔ address < room :=
    hasSlot_iff_of_equal equal positive whole
  have bijective : Set.BijOn (slotOf turn stores.size) _ _ := bijOn_slotOf positive whole
  refine ⟨bijective, fun chunks text written => ?_⟩
  intro bytes loaded
  -- Every byte has a slot, so nothing stops the loading.
  have small : bytes.length ≤ room → loaded.result = .ok bytes.length ∧
      Overwritten turn bytes stores loaded.stores := fun fits =>
    written.spells.loads path fun address within =>
      (slots address).mpr (Nat.lt_of_lt_of_le within fits)
  -- The first byte beyond the room is the lowest problem, whatever follows it.
  have large : room < bytes.length → loaded.result = .error (.imageOutOfRange room) := by
    intro larger
    have missing : ∀ address, hasSlot turn address stores = false ↔ room ≤ address := by
      intro address
      rw [← Bool.not_eq_true, slots, Nat.not_lt]
    exact written.spells.fails path larger ((missing room).mpr (Nat.le_refl room))
      fun other => (missing other).mp
  refine ⟨⟨fun accepted => ?_, fun fits => (small fits).1⟩, ?_, large⟩
  · -- A larger file would fail.
    refine Nat.le_of_not_lt fun larger => ?_
    rw [large larger] at accepted
    cases accepted
  · intro full slot among inside
    -- Some address leads to the slot, and with a full image its byte is there.
    obtain ⟨address, within, rfl⟩ := bijective.surjOn ⟨among, inside⟩
    have inBytes : address < bytes.length := full ▸ within
    refine ⟨address, inBytes, rfl, ?_⟩
    rw [(small (Nat.le_of_eq full)).2.byteAt?_slotOf positive inBytes ((slots address).mpr within)]
    simp [inBytes]

/-- Two stores of two bytes are filled by a line of four, and have no room for another line. -/
theorem fills_two_stores :
    let stores : Stores := #[#[0, 0], #[0, 0]]
    let line := [] ++ ['0', '4'] ++ ['0', '3'] ++ ['0', '2'] ++ ['0', '1'] ++ [' ']
    let more := [] ++ ['0', '5'] ++ [' ']
    let filled := load (.ofBytes (Text.encode line)) 1 "" stores
    let overfilled := load (.ofBytes (Text.encode (line ++ ['\n'] ++ more))) 1 "" stores
    filled.result = .ok 4 ∧ overfilled.result = .error (.imageOutOfRange 4) ∧
      ∃ address < 4, slotOf 1 2 address = { store := 0, offset := 1 } ∧
        byteAt? filled.stores { store := 0, offset := 1 } = [1, 2, 3, 4][address]? := by
  intro stores line more filled overfilled
  -- The line is written from the last byte to the first, as the digits stand on it.
  have first : WrittenLine [1, 2, 3, 4] line :=
    .line (.byte (Or.inl rfl) (Or.inl rfl) (.byte (Or.inl rfl) (Or.inl rfl)
      (.byte (Or.inl rfl) (Or.inl rfl) (.byte (Or.inl rfl) (Or.inl rfl) .none))))
      (List.forall_mem_singleton.mpr (by decide))
  have last : WrittenLine [5] more :=
    .line (.byte (Or.inl rfl) (Or.inl rfl) .none) (List.forall_mem_singleton.mpr (by decide))
  have equal : ∀ cells ∈ stores, cells.size = 2 := by decide
  have whole : max 1 1 ∣ 2 := by decide
  obtain ⟨-, loads⟩ := fills_whole_turns equal whole ""
  -- Four bytes are exactly the room of both stores, and the fifth has no slot.
  obtain ⟨accepted, replaced, -⟩ := loads _ _ (.unended first)
  obtain ⟨-, -, refused⟩ := loads _ _ (.ended first (Or.inl rfl) (.unended last))
  exact ⟨accepted.mpr (by decide), refused (by decide),
    replaced rfl { store := 0, offset := 1 } (by decide) (by decide)⟩

end Capacity

end Testbench.Image
