/-! Reading an unsigned decimal number out of text. -/

namespace Testbench.Text

/-- The value of one ASCII decimal digit. -/
def digitValue? (c : Char) : Option Nat :=
  if '0' ≤ c ∧ c ≤ '9' then some (c.toNat - '0'.toNat) else none

/-- Appends decimal digits to a number read so far, and refuses any other character. -/
def readDigits (value : Nat) : List Char → Option Nat
  | [] => some value
  | c :: rest =>
    -- Each digit read makes the earlier ones worth ten times as much.
    match digitValue? c with
    | some digit => readDigits (10 * value + digit) rest
    | none => none

/-- A number is at least one digit behind an optional plus sign. -/
def readNatural? (text : List Char) : Option Nat :=
  let digits :=
    match text with
    | '+' :: rest => rest
    | _ => text
  -- A lone sign is no number.
  if digits.isEmpty then none else readDigits 0 digits

/-- A number of a fixed width is a number that its bits can hold. -/
def readUnsigned? (bits : Nat) (text : String) : Option Nat :=
  (readNatural? text.toList).filter (· < 1 <<< bits)

end Testbench.Text
