/-! Numbers in base sixteen and the bytes spelled by pairs of hexadecimal digits. -/

namespace Testbench.Text

/-- The lowercase digits of a number in base sixteen, without leading zeros. -/
def hexDigits (value : Nat) : String :=
  String.ofList (Nat.toDigits 16 value)

/-- A number in base sixteen behind its base marker. -/
def hexadecimal (value : Nat) : String :=
  "0x" ++ hexDigits value

/-- A word in base sixteen behind its base marker, padded with zeros to all sixteen digits. -/
def hexadecimalWord (word : UInt64) : String :=
  let digits := Nat.toDigits 16 word.toNat
  -- A word has at most sixteen digits, so the padded text has exactly that many.
  "0x" ++ String.ofList (List.replicate (16 - digits.length) '0' ++ digits)

/-- The value of one ASCII hexadecimal digit of either case, given as its byte. -/
def hexValue? (digit : UInt8) : Option Nat :=
  let code := digit.toNat
  -- The three ranges are the decimal digits, the capital letters and the small letters.
  if 0x30 ≤ code ∧ code ≤ 0x39 then some (code - 0x30)
  else if 0x41 ≤ code ∧ code ≤ 0x46 then some (code - 0x41 + 10)
  else if 0x61 ≤ code ∧ code ≤ 0x66 then some (code - 0x61 + 10)
  else none

/-- The byte spelled by two hexadecimal digits, the more significant one first. -/
def hexByte? (high low : UInt8) : Option UInt8 :=
  match hexValue? high, hexValue? low with
  | some upper, some lower => some (UInt8.ofNat (16 * upper + lower))
  | _, _ => none

end Testbench.Text
