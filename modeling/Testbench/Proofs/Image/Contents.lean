import Testbench.Proofs.Image.Problems

/-! An image that loads is spread over the stores, which hold its bytes and zeros behind them. -/

namespace Testbench.Image

/-- The bytes spelled by hexadecimal digits from left to right, if they spell any. -/
def spelled? : List UInt8 → Option (List UInt8)
  | [] => some []
  | [_] => none
  | high :: low :: rest =>
    match Text.hexByte? high low, spelled? rest with
    | some byte, some bytes => some (byte :: bytes)
    | _, _ => none

/-- The bytes of a line in the order of their addresses, of which the rightmost is the lowest. -/
def lineBytes? (line : List Char) : Option (List UInt8) :=
  (spelled? (digitsOf line)).map List.reverse

/-- The bytes of lines in the order of their addresses. -/
def bytes? : List (List Char) → Option (List UInt8)
  | [] => some []
  | line :: rest =>
    match lineBytes? line, bytes? rest with
    | some first, some later => some (first ++ later)
    | _, _ => none

/-- The stores hold the bytes of an image at their addresses, and zeros behind it. -/
structure Holds (turn : Nat) (bytes : List UInt8) (blank stores : Stores) : Prop where
  size : stores.size = blank.size
  /-- The slots are those that were there before, each with the byte of its image address. -/
  slots : ∀ slot, byteAt? stores slot =
    (byteAt? blank slot).map fun _ => bytes.getD (addressOf turn blank.size slot) 0

/-- Some stores of equal capacity, with nothing but zeros in them. -/
def Blank (count capacity : Nat) (stores : Stores) : Prop :=
  ∀ slot, byteAt? stores slot =
    if slot.store < count ∧ slot.offset < capacity then some 0 else none

/-- Blank stores that were overwritten hold the bytes, and zeros elsewhere. -/
theorem Blank.holds {turn count capacity : Nat} {bytes : List UInt8} {blank stores : Stores}
    (zeros : Blank count capacity blank) (overwritten : Overwritten turn bytes blank stores) :
    Holds turn bytes blank stores where
  size := overwritten.size
  slots slot := by
    -- What was in a slot before is zero, if the slot is there.
    rw [overwritten.slots, zeros slot]
    split <;> rfl

/-- A store that was blank is as large as before, and holds the bytes whose turn it is there. -/
theorem Holds.store {turn count capacity : Nat} {bytes : List UInt8} {before stores : Stores}
    (holds : Holds turn bytes before stores) (blank : Blank count capacity before)
    {store : Nat} (among : store < count) {cells : Array UInt8}
    (found : stores[store]? = some cells) :
    cells.size = capacity ∧ ∀ offset < capacity,
      cells.getD offset 0 = bytes.getD (addressOf turn before.size ⟨store, offset⟩) 0 := by
  -- The slots of one store are its cells, each as it was loaded or left blank.
  have byte : ∀ offset, cells[offset]? =
      if offset < capacity then some (bytes.getD (addressOf turn before.size ⟨store, offset⟩) 0)
      else none := by
    intro offset
    have slot := holds.slots ⟨store, offset⟩
    rw [byteAt?, found, Option.bind_some, blank] at slot
    rw [slot]
    by_cases within : offset < capacity <;> simp [among, within]
  constructor
  · refine Nat.le_antisymm ?_ (Nat.le_of_not_lt fun short => ?_)
    · exact Array.getElem?_eq_none_iff.mp (by rw [byte, if_neg (Nat.lt_irrefl _)])
    · -- A shorter store would have no byte right behind its end.
      have beyond := byte cells.size
      rw [if_pos short, Array.getElem?_eq_none (Nat.le_refl _)] at beyond
      cases beyond
  · intro offset within
    rw [Array.getD_eq_getD_getElem?, byte, if_pos within]
    rfl

/-- Two more digits on the right spell one more byte. -/
theorem spelled?_concat {digits bytes : List UInt8} {high low byte : UInt8}
    (before : spelled? digits = some bytes) (pair : Text.hexByte? high low = some byte) :
    spelled? (digits ++ [high, low]) = some (bytes ++ [byte]) := by
  -- The pairs are read from the left, so the new one is reached behind all others.
  fun_induction spelled? digits generalizing bytes with
  | case1 =>
    cases before
    simp [spelled?, pair]
  | case2 => cases before
  | case3 first second rest value values later spells ih =>
    cases before
    simp [spelled?, spells, ih later]
  | case4 => cases before

/-- Digits whose pairs from the right spell some bytes spell them from left to right as well. -/
theorem spelled?_of_spell : ∀ (digits : List UInt8) {bytes : List UInt8},
    digits.length % 2 = 0 → Spell (pairUp digits) bytes →
      spelled? digits.reverse = some bytes.reverse
  | [], bytes, _, spelled => by
    rw [List.length_eq_zero_iff.mp spelled.length.symm]
    rfl
  | [_], _, even, _ => by simp at even
  | low :: high :: rest, bytes, even, spelled => by
    obtain ⟨byte, later, rfl, pair, others⟩ := List.map_eq_cons_iff.mp spelled.symm
    have pairs : rest.length % 2 = 0 := by
      simp only [List.length_cons] at even
      omega
    -- The pair that comes first from the right is the last one from the left.
    have before := spelled?_of_spell rest pairs others.symm
    simpa using spelled?_concat before pair.symm

/-- A line of paired digits has the bytes that its pairs spell. -/
theorem lineBytes?_of_spell {line : List Char} {bytes : List UInt8}
    (even : (digitsOf line).length % 2 = 0) (spelled : Spell (pairsOf line) bytes) :
    lineBytes? line = some bytes := by
  -- A line is read from its end, and its pairs were taken in that order already.
  have read := spelled?_of_spell _ (by rwa [List.length_reverse]) spelled
  rw [List.reverse_reverse] at read
  simp [lineBytes?, read]

/-- Lines of paired digits have the bytes that their pairs spell, one line behind the other. -/
theorem bytes?_of_spell (lines : List (List Char)) :
    ∀ {bytes : List UInt8}, (∀ line ∈ lines, (digitsOf line).length % 2 = 0) →
      Spell (lines.flatMap pairsOf) bytes → bytes? lines = some bytes := by
  induction lines with
  | nil =>
    intro bytes _ spelled
    rw [List.length_eq_zero_iff.mp spelled.length.symm]
    rfl
  | cons line rest ih =>
    intro bytes even spelled
    rw [List.forall_mem_cons] at even
    rw [Spell, List.flatMap_cons, List.map_append] at spelled
    -- What the lines spell together is split behind the bytes of the first one.
    obtain ⟨first, later, rfl, here, behind⟩ := List.map_eq_append_iff.mp spelled.symm
    simp [bytes?, lineBytes?_of_spell even.1 here.symm, ih even.2 behind.symm]

/-- An image that loads into blank stores is spread over them, and nothing else is. -/
theorem load_ok {image : Lines} {lineBytes loadedBytes count capacity : Nat} {path : String}
    {stores : Stores} (blank : Blank count capacity stores)
    (loaded : (load image lineBytes path stores).result = .ok loadedBytes) :
    ∃ bytes, bytes? image.lines = some bytes ∧ bytes.length = loadedBytes ∧
      Holds (turnBytes lineBytes) bytes stores (load image lineBytes path stores).stores := by
  obtain ⟨bytes, outcome⟩ := exists_outcome lineBytes path stores image
  cases found : image.problems (turnBytes lineBytes) path stores with
  | nil =>
    rw [found] at outcome
    have length : (Except.ok loadedBytes : Except SetupFault Nat) = .ok bytes.length :=
      loaded.symm.trans outcome.result
    refine ⟨bytes, ?_, (Except.ok.inj length).symm, blank.holds outcome.stores⟩
    exact bytes?_of_spell image.lines (even_of_problems_eq_nil found) outcome.spelled_all
  | cons problem others =>
    -- A problem would be the result.
    rw [outcome.result, found] at loaded
    cases loaded

end Testbench.Image
