import Testbench.Image.Placement

/-! Every slot behind the channels has one image address, so bytes do not overwrite each other. -/

namespace Testbench.Image

/-- A turn has at least one byte. -/
theorem turnBytes_pos (lineBytes : Nat) : 0 < turnBytes lineBytes := by
  -- A line without bytes counts as a turn of one byte.
  unfold turnBytes
  omega

/-- The image address of a slot, when stores take turns. -/
def addressOf (turn stores : Nat) (slot : Slot) : Nat :=
  (slot.offset / turn * stores + slot.store) * turn + slot.offset % turn

/-- A number is split into whole blocks and a rest in one way only. -/
theorem split_block {size rest : Nat} (small : rest < size) (blocks : Nat) :
    (blocks * size + rest) / size = blocks ∧ (blocks * size + rest) % size = rest :=
  -- Quotient and remainder are what this says, as the rest is below the size.
  (Nat.div_mod_unique (Nat.zero_lt_of_lt small)).mpr
    ⟨by rw [Nat.mul_comm, Nat.add_comm], small⟩

/-- The slot of an image address leads back to the address. -/
theorem addressOf_slotOf {turn : Nat} (positive : 0 < turn) (stores address : Nat) :
    addressOf turn stores (slotOf turn stores address) = address := by
  -- The offset is made of whole turns and a rest below one turn.
  obtain ⟨turns, rest⟩ := split_block (Nat.mod_lt address positive) (address / turn / stores)
  rw [addressOf, slotOf, turns, rest, Nat.div_add_mod', Nat.div_add_mod']

/-- The image address of a slot leads back to the slot, if there is a store for it. -/
theorem slotOf_addressOf {turn stores : Nat} (positive : 0 < turn) {slot : Slot}
    (among : slot.store < stores) : slotOf turn stores (addressOf turn stores slot) = slot := by
  -- Turns are counted in rounds, in each of which every store takes one.
  obtain ⟨turns, rest⟩ := split_block (Nat.mod_lt slot.offset positive)
    (slot.offset / turn * stores + slot.store)
  obtain ⟨rounds, store⟩ := split_block among (slot.offset / turn)
  rw [addressOf, slotOf, turns, rest, rounds, store, Nat.div_add_mod']

/-- The byte in a slot, if the slot is there. -/
def byteAt? (stores : Stores) (slot : Slot) : Option UInt8 :=
  stores[slot.store]?.bind fun cells => cells[slot.offset]?

/-- There are as many stores after a byte was placed as before. -/
@[simp]
theorem size_placeByte (turn address : Nat) (byte : UInt8) (stores : Stores) :
    (placeByte turn address byte stores).size = stores.size := by
  -- A byte is put in place with a modification, which keeps the size.
  simp [placeByte]

/-- A byte is placed in the slot of its address, if that is there, and in no other slot. -/
theorem byteAt?_placeByte (turn address : Nat) (byte : UInt8) (stores : Stores) (slot : Slot) :
    byteAt? (placeByte turn address byte stores) slot =
      if slot = slotOf turn stores.size address then (byteAt? stores slot).map fun _ => byte
      else byteAt? stores slot := by
  obtain ⟨store, offset⟩ := slot
  simp only [byteAt?, placeByte, Array.getElem?_modify]
  -- Both the store and the offset have to be those of the address.
  generalize slotOf turn stores.size address = target
  obtain ⟨store', offset'⟩ := target
  simp only [Slot.mk.injEq]
  by_cases same : store' = store
  · subst same
    cases stores[store']? with
    | none => simp
    | some cells =>
      by_cases there : offset' = offset
      · subst there
        simp only [if_true, Option.map_some, Option.bind_some, and_self]
        rw [Array.getElem?_setIfInBounds_self]
        split <;> simp_all
      · simp [Array.getElem?_setIfInBounds_ne there, Ne.symm there]
  · simp [same, Ne.symm same]

/-- A slot that is there is in one of the stores. -/
theorem store_lt_of_byteAt? {stores : Stores} {slot : Slot} {byte : UInt8}
    (there : byteAt? stores slot = some byte) : slot.store < stores.size := by
  -- Beyond the stores there is no slot to read.
  refine Nat.lt_of_not_le fun beyond => ?_
  simp [byteAt?, Array.getElem?_eq_none beyond] at there

/-- The slot of an address is there when there is a byte in it. -/
theorem hasSlot_eq (turn address : Nat) (stores : Stores) :
    hasSlot turn address stores = (byteAt? stores (slotOf turn stores.size address)).isSome := by
  generalize slot : slotOf turn stores.size address = target
  rw [hasSlot, slot, byteAt?, Array.getD_eq_getD_getElem?]
  -- A store that is not there has no bytes, which makes it as good as an empty one.
  cases stores[target.store]? with
  | none => simp
  | some cells =>
    by_cases within : target.offset < cells.size <;> simp [within]

/-- Stores after bytes went to the first addresses, with everything else as it was before. -/
structure Overwritten (turn : Nat) (bytes : List UInt8) (before after : Stores) : Prop where
  size : after.size = before.size
  /-- The slots are the same as before, each with the byte for its address or else its own. -/
  slots : ∀ slot, byteAt? after slot =
    (byteAt? before slot).map fun old => bytes.getD (addressOf turn before.size slot) old

namespace Overwritten

variable {turn : Nat} {bytes : List UInt8} {before after : Stores}

/-- Stores to which no bytes went are as they were before. -/
theorem none (turn : Nat) (stores : Stores) : Overwritten turn [] stores stores where
  size := rfl
  slots slot := by simp

/-- The next byte goes to the address behind the others. -/
theorem place (positive : 0 < turn) (overwritten : Overwritten turn bytes before after)
    (byte : UInt8) :
    Overwritten turn (bytes ++ [byte]) before (placeByte turn bytes.length byte after) where
  size := by rw [size_placeByte, overwritten.size]
  slots slot := by
    rw [byteAt?_placeByte, overwritten.slots, overwritten.size, Option.map_map]
    by_cases same : slot = slotOf turn before.size bytes.length
    · -- The address of this slot is the one behind the others.
      have address : addressOf turn before.size slot = bytes.length := by
        rw [same, addressOf_slotOf positive]
      rw [if_pos same, address]
      refine Option.map_congr fun _ _ => ?_
      simp
    · rw [if_neg same]
      refine Option.map_congr fun _ there => ?_
      -- A slot that is there has an address of its own, for which nothing changes.
      have address : addressOf turn before.size slot ≠ bytes.length := by
        intro found
        exact same (by rw [← found, slotOf_addressOf positive (store_lt_of_byteAt? there)])
      rw [List.getD_eq_getElem?_getD, List.getD_eq_getElem?_getD]
      rcases Nat.lt_or_gt_of_ne address with earlier | beyond
      · rw [List.getElem?_append_left earlier]
      · rw [List.getElem?_eq_none (Nat.le_of_lt beyond),
          List.getElem?_eq_none (by simp; omega)]

/-- Overwriting adds no slots and takes none away. -/
theorem hasSlot_after (overwritten : Overwritten turn bytes before after) (address : Nat) :
    hasSlot turn address after = hasSlot turn address before := by
  -- Every slot holds the new byte or the old one, so it is there as before.
  rw [hasSlot_eq, hasSlot_eq, overwritten.slots, overwritten.size, Option.isSome_map]

/-- A byte is in the slot of its address, if the slot is there. -/
theorem byteAt?_slotOf (positive : 0 < turn) (overwritten : Overwritten turn bytes before after)
    {address : Nat} (within : address < bytes.length)
    (there : hasSlot turn address before = true) :
    byteAt? after (slotOf turn before.size address) = some bytes[address] := by
  rw [hasSlot_eq, Option.isSome_iff_exists] at there
  obtain ⟨old, found⟩ := there
  -- The address of the slot leads back to the byte that was meant for it.
  rw [overwritten.slots, found, addressOf_slotOf positive, Option.map_some]
  simp [within]

/-- A slot for none of the bytes is as it was before. -/
theorem byteAt?_of_ne (positive : 0 < turn) (overwritten : Overwritten turn bytes before after)
    {slot : Slot} (other : ∀ address < bytes.length, slot ≠ slotOf turn before.size address) :
    byteAt? after slot = byteAt? before slot := by
  rw [overwritten.slots]
  cases there : byteAt? before slot with
  | none => rfl
  | some old =>
    -- Otherwise the slot would be the one of its own address.
    have beyond : bytes.length ≤ addressOf turn before.size slot := by
      refine Nat.le_of_not_lt fun within => ?_
      exact other _ within (slotOf_addressOf positive (store_lt_of_byteAt? there)).symm
    rw [Option.map_some, List.getD_eq_getElem?_getD, List.getElem?_eq_none beyond,
      Option.getD_none]

end Overwritten

end Testbench.Image
