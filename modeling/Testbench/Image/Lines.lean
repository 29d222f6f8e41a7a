import Testbench.Fault.System
import Testbench.Text.Printable
import Testbench.Text.Utf8

/-! The lines of a memory image. -/

namespace Testbench.Image

/-- An image as it was read: its lines in order, and the fault that ended the reading, if any. -/
structure Lines where
  lines : List (List Char)
  fault : Option SystemFault := none
  deriving DecidableEq, Inhabited

/-- The byte that ends a line. -/
def lineEnd : UInt8 := 0x0A

/-- The ended lines of a byte string, without their ends, and the bytes behind the last end. -/
def cutLines : List UInt8 → List (List UInt8) × List UInt8
  | [] => ([], [])
  | byte :: rest =>
    if byte = lineEnd then
      let (lines, unended) := cutLines rest
      -- The line that ends here is empty from this byte on.
      ([] :: lines, unended)
    else
      match cutLines rest with
      | ([], unended) => ([], byte :: unended)
      | (line :: lines, unended) => ((byte :: line) :: lines, unended)

/-- Decodes lines up to the first one that is not valid text. -/
def decodeLines : List (List UInt8) → Lines
  | [] => { lines := [] }
  | bytes :: rest =>
    match Text.decode? bytes with
    -- Nothing is read behind a malformed line.
    | none => { lines := [], fault := some .malformedText }
    | some line =>
      let later := decodeLines rest
      { later with lines := line :: later.lines }

/--
Reads an image from its bytes.

A last line without an end counts unless it is empty or the reading fails behind it.
-/
def Lines.ofBytes (bytes : List UInt8) (fault : Option SystemFault := none) : Lines :=
  let (ended, unended) := cutLines bytes
  let whole := if fault.isNone && !unended.isEmpty then ended ++ [unended] else ended
  let read := decodeLines whole
  { read with fault := read.fault.or fault }

/-- The digits of a line as bytes, without the blanks behind them. -/
def digitsOf (line : List Char) : List UInt8 :=
  Text.encode (Text.trimEnd line)

end Testbench.Image
