import Testbench.Text.Hexadecimal
import Testbench.Text.Printable

/-! Quoted text, in which every character without a shape of its own is spelled by its code. -/

namespace Testbench.Text

/-- The spelling of one character between quotes. -/
def quoteChar (c : Char) : List Char :=
  match c with
  -- These characters have a spelling of their own.
  | '\x00' => ['\\', '0']
  | '\t' => ['\\', 't']
  | '\n' => ['\\', 'n']
  | '\r' => ['\\', 'r']
  | '"' => ['\\', '"']
  | '\\' => ['\\', '\\']
  | _ =>
    if isShown c then [c]
    -- Any other one is spelled by its code point.
    else ['\\', 'u', '{'] ++ Nat.toDigits 16 c.toNat ++ ['}']

/-- Text between quotes, one spelling after another. -/
def quoteChars (text : List Char) : String :=
  String.ofList ('"' :: text.flatMap quoteChar ++ ['"'])

/-- A string between quotes. -/
def quoted (text : String) : String :=
  quoteChars text.toList

end Testbench.Text
