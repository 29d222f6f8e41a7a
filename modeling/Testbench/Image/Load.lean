import Testbench.Fault.Setup
import Testbench.Image.Lines
import Testbench.Image.Placement

/-! Loading a memory image into the stores behind the channels. -/

namespace Testbench.Image

/--
The result of loading: the number of bytes in the image or the first fault, and the stores.

Bytes before a fault stay stored.
-/
structure Loaded where
  result : Except SetupFault Nat
  stores : Stores

/--
Stores the bytes of a line at increasing addresses, with its digits given from the right.

The lowest fault wins, and for one byte a malformed pair comes before a missing slot.
-/
def storeDigits (line turn address : Nat) (stores : Stores) : List UInt8 → Loaded
  | low :: high :: rest =>
    match Text.hexByte? high low with
    | none =>
      let fault := LineFault.notDigits (Text.decodeLossy [high, low])
      ⟨.error (.imageMalformed line fault.reason), stores⟩
    | some byte =>
      if hasSlot turn address stores then
        storeDigits line turn (address + 1) (placeByte turn address byte stores) rest
      else ⟨.error (.imageOutOfRange address), stores⟩
  -- The digits pair up, so none is left over.
  | _ => ⟨.ok address, stores⟩

/-- Stores one line at an address, and answers with the address behind it. -/
def storeLine (line turn address : Nat) (digits : List UInt8) (stores : Stores) : Loaded :=
  if digits.length % 2 ≠ 0 then
    let fault := LineFault.oddDigits digits.length
    ⟨.error (.imageMalformed line fault.reason), stores⟩
  -- Without stores there is no slot for any byte, well-formed or not.
  else if stores.isEmpty && !digits.isEmpty then ⟨.error (.imageOutOfRange address), stores⟩
  else storeDigits line turn address stores digits.reverse

/-- Stores lines one behind the other, counting them from the given number. -/
def storeLines (turn line address : Nat) (stores : Stores) : List (List Char) → Loaded
  | [] => ⟨.ok address, stores⟩
  | text :: rest =>
    let loaded := storeLine line turn address (digitsOf text) stores
    match loaded.result with
    | .error fault => ⟨.error fault, loaded.stores⟩
    | .ok behind => storeLines turn (line + 1) behind loaded.stores rest

/--
Loads an image whose stores take turns of the given length.

The rightmost byte of a line has the lowest address, and lines follow one another.
A failed read is met behind the lines read before it.
-/
def load (image : Lines) (lineBytes : Nat) (path : String) (stores : Stores) : Loaded :=
  let loaded := storeLines (turnBytes lineBytes) 1 0 stores image.lines
  match loaded.result, image.fault with
  | .ok _, some fault => ⟨.error (.imageUnread path fault), loaded.stores⟩
  | _, _ => loaded

end Testbench.Image
