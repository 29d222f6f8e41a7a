import Mathlib.Algebra.Order.Ring.Nat
import Testbench.Text.Decimal

/-! A number is read from exactly the texts that spell it in decimal. -/

namespace Testbench.Text

/-- Decimal digits spell a number, the most significant one first. -/
structure Digits (digits : List Char) (number : Nat) : Prop where
  present : digits ≠ []
  each : ∀ c ∈ digits, c.isDigit = true
  value : Nat.ofDigitChars 10 digits 0 = number

/-- A numeral is made of digits, and one plus sign may stand in front of them. -/
inductive Numeral : List Char → Nat → Prop
  | plain {digits : List Char} {number : Nat} (spelled : Digits digits number) :
    Numeral digits number
  | signed {digits : List Char} {number : Nat} (spelled : Digits digits number) :
    Numeral ('+' :: digits) number

/-- A text denotes a number that some bits can hold. -/
def Denotes (bits : Nat) (text : String) (number : Nat) : Prop :=
  Numeral text.toList number ∧ number < 2 ^ bits

/-- Just the decimal digits have a value. -/
theorem digitValue?_eq (c : Char) :
    digitValue? c = if c.isDigit then some (c.toNat - '0'.toNat) else none := by
  -- Both conditions compare the character with the first and with the last digit.
  have same : ('0' ≤ c ∧ c ≤ '9') ↔ c.isDigit = true := by
    simp [Char.isDigit, Char.le_def]
  simp only [digitValue?, same]

/-- Digits behind a number read so far make it greater, and nothing but digits is read. -/
theorem readDigits_eq_some_iff {text : List Char} {value number : Nat} :
    readDigits value text = some number ↔
      (∀ c ∈ text, c.isDigit = true) ∧ Nat.ofDigitChars 10 text value = number := by
  -- The induction is over any number read so far, since each digit changes it.
  induction text generalizing value with
  | nil => simp [readDigits]
  | cons c rest ih =>
    rw [readDigits, digitValue?_eq, Nat.ofDigitChars_cons, List.forall_mem_cons]
    cases digit : c.isDigit with
    | false => simp
    | true => simp [ih]

/-- A number is read from the numerals for it. -/
theorem readNatural?_eq_some_iff {text : List Char} {number : Nat} :
    readNatural? text = some number ↔ Numeral text number := by
  have reads : ∀ digits : List Char,
      (if digits.isEmpty then none else readDigits 0 digits) = some number ↔
        Digits digits number := by
    intro digits
    cases digits with
    | nil => exact ⟨nofun, fun spelled => absurd rfl spelled.present⟩
    | cons c rest =>
      refine readDigits_eq_some_iff.trans ⟨?_, fun spelled => ⟨spelled.each, spelled.value⟩⟩
      exact fun ⟨each, value⟩ => ⟨List.cons_ne_nil c rest, each, value⟩
  unfold readNatural?
  split
  · rename_i rest
    refine (reads rest).trans ⟨.signed, fun numeral => ?_⟩
    -- A sign is no digit, so the digits are those behind it.
    cases numeral with
    | plain spelled => exact absurd (spelled.each '+' List.mem_cons_self) (by decide)
    | signed spelled => exact spelled
  · rename_i unsigned
    refine (reads text).trans ⟨.plain, fun numeral => ?_⟩
    cases numeral with
    | plain spelled => exact spelled
    | signed => exact absurd rfl (unsigned _)

/-- A number of a fixed width is read from the texts that denote it. -/
theorem readUnsigned?_eq_some_iff {bits : Nat} {text : String} {number : Nat} :
    readUnsigned? bits text = some number ↔ Denotes bits text number := by
  -- A natural number is read first, and then has to be below the width.
  rw [readUnsigned?, Option.filter_eq_some_iff, readNatural?_eq_some_iff, Nat.one_shiftLeft,
    decide_eq_true_iff, Denotes]

/-- One sign may stand in front of any number of zeros, and the width is kept to. -/
example : readUnsigned? 8 "+00255" = some 255 ∧ readUnsigned? 8 "256" = none ∧
    readUnsigned? 8 "++1" = none := by
  decide

/-- A text denotes one number at most. -/
theorem Denotes.unique {bits : Nat} {text : String} {number other : Nat}
    (first : Denotes bits text number) (second : Denotes bits text other) : number = other :=
  -- Both numbers are the one that is read.
  Option.some.inj
    ((readUnsigned?_eq_some_iff.mpr first).symm.trans (readUnsigned?_eq_some_iff.mpr second))

/-- Nothing denotes no number. -/
theorem Denotes.ne_empty {bits : Nat} {text : String} {number : Nat}
    (denotes : Denotes bits text number) : text ≠ "" := by
  rintro rfl
  -- A sign is a character, and without one there is at least one digit.
  cases denotes.1 with
  | plain spelled => exact spelled.present rfl

/-- A text denotes the word made of a number of its width. -/
theorem Denotes.toUInt32 {text : String} {number : Nat} (denotes : Denotes 32 text number) :
    Denotes 32 text (UInt32.ofNat number).toNat := by
  -- The word loses no bits of a number that they can hold.
  rwa [UInt32.toNat_ofNat_of_lt' denotes.2]

/-- A text denotes the double word made of a number of its width. -/
theorem Denotes.toUInt64 {text : String} {number : Nat} (denotes : Denotes 64 text number) :
    Denotes 64 text (UInt64.ofNat number).toNat := by
  -- The number is below the width, so nothing of it is cut off.
  rwa [UInt64.toNat_ofNat_of_lt' denotes.2]

end Testbench.Text
