import Testbench.Proofs.Text.Utf8
import Testbench.Text.Hexadecimal
import Testbench.Text.Printable

/-! Hexadecimal digits of either case, as they are written and as they are read. -/

namespace Testbench.Text

/-- A byte that spells a hexadecimal digit of either case. -/
def isHexDigit (byte : UInt8) : Bool :=
  (encode "0123456789ABCDEFabcdef".toList).contains byte

/-- A character is the digit for a value, as a small or as a capital letter. -/
def IsDigitOf (value : Nat) (c : Char) : Prop :=
  c = Nat.digitChar value ∨ c = (Nat.digitChar value).toUpper

/-- A byte has a value as a digit when it spells one. -/
theorem isSome_hexValue? : ∀ byte, (hexValue? byte).isSome = isHexDigit byte :=
  -- Checked byte by byte, as the two definitions compare different bounds.
  forall_byte (by decide +kernel)

/-- Two bytes spell a byte when both are digits. -/
theorem isSome_hexByte? (high low : UInt8) :
    (hexByte? high low).isSome = (isHexDigit high && isHexDigit low) := by
  -- One half without a value is enough to spell nothing.
  rw [← isSome_hexValue?, ← isSome_hexValue?, hexByte?]
  cases hexValue? high <;> cases hexValue? low <;> rfl

/-- The digit for a value is not blank, and spelled by one byte that has the value. -/
theorem IsDigitOf.spelled {value : Nat} {c : Char} (digit : IsDigitOf value c)
    (within : value < 16) :
    isBlank c = false ∧ ∃ code, String.utf8EncodeChar c = [code] ∧ hexValue? code = some value := by
  -- Sixteen values, each with a small and a capital letter.
  have small : ∀ value < 16, isBlank (Nat.digitChar value) = false ∧
      (String.utf8EncodeChar (Nat.digitChar value)).map hexValue? = [some value] := by
    decide +kernel
  have capital : ∀ value < 16, isBlank (Nat.digitChar value).toUpper = false ∧
      (String.utf8EncodeChar (Nat.digitChar value).toUpper).map hexValue? = [some value] := by
    decide +kernel
  have both : isBlank c = false ∧ (String.utf8EncodeChar c).map hexValue? = [some value] := by
    rcases digit with rfl | rfl
    · exact small value within
    · exact capital value within
  obtain ⟨visible, spells⟩ := both
  obtain ⟨code, found, read⟩ := List.map_eq_singleton_iff.mp spells
  exact ⟨visible, code, found, read⟩

/-- The digits for the halves of a byte spell the byte. -/
theorem hexByte?_of_values {high low byte : UInt8} (upper : hexValue? high = some (byte.toNat / 16))
    (lower : hexValue? low = some (byte.toNat % 16)) : hexByte? high low = some byte := by
  -- The halves of a byte are its quotient and its remainder by sixteen.
  rw [hexByte?, upper, lower]
  simp only [Nat.div_add_mod, UInt8.ofNat_toNat]

end Testbench.Text
