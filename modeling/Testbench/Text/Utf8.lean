/-! Bytes read as UTF-8, one scalar value or one malformed run at a time. -/

namespace Testbench.Text

/-- A sequence whose bytes have not all come. -/
structure Unfinished where
  /-- The bits read so far. -/
  bits : Nat
  /-- The bytes that follow the next one. -/
  later : Nat
  /-- The least and the greatest byte that can come next. -/
  low : Nat := 0x80
  high : Nat := 0xBF
  deriving DecidableEq, Inhabited

/-- What was completed by a byte, and the sequence that it leaves unfinished. -/
abbrev Reading : Type := List (Option Char) × Option Unfinished

/-- A byte that begins something: a scalar value of its own, a sequence, or a malformed run. -/
def opening (byte : UInt8) : Reading :=
  let code := byte.toNat
  -- Overlong forms, surrogates and values behind the last plane fail at the second byte's range.
  if code < 0x80 then ([some (Char.ofNat code)], none)
  else if 0xC2 ≤ code ∧ code ≤ 0xDF then ([], some { bits := code - 0xC0, later := 0 })
  else if code = 0xE0 then ([], some { bits := 0x0, later := 1, low := 0xA0 })
  else if code = 0xED then ([], some { bits := 0xD, later := 1, high := 0x9F })
  else if 0xE1 ≤ code ∧ code ≤ 0xEF then ([], some { bits := code - 0xE0, later := 1 })
  else if code = 0xF0 then ([], some { bits := 0x0, later := 2, low := 0x90 })
  else if code = 0xF4 then ([], some { bits := 0x4, later := 2, high := 0x8F })
  else if 0xF1 ≤ code ∧ code ≤ 0xF3 then ([], some { bits := code - 0xF0, later := 2 })
  else ([none], none)

/-- A byte behind an unfinished sequence goes on with it, or cuts it short and begins anew. -/
def continuing (sequence : Unfinished) (byte : UInt8) : Reading :=
  let code := byte.toNat
  if sequence.low ≤ code ∧ code ≤ sequence.high then
    let bits := 64 * sequence.bits + (code - 0x80)
    match sequence.later with
    | 0 => ([some (Char.ofNat bits)], none)
    -- Only the second byte of a sequence has a range of its own.
    | later + 1 => ([], some { bits, later })
  else
    let (completed, unfinished) := opening byte
    (none :: completed, unfinished)

/--
The scalar values of bytes behind an unfinished sequence, if there is one.

Each longest malformed run stands for one missing value.
-/
def scalarsBehind : Option Unfinished → List UInt8 → List (Option Char)
  | none, [] => []
  | some _, [] => [none]
  | unfinished, byte :: rest =>
    let (completed, next) :=
      match unfinished with
      | none => opening byte
      | some sequence => continuing sequence byte
    completed ++ scalarsBehind next rest

/-- The scalar values of a byte string, with `none` for each longest malformed run. -/
def scalars (bytes : List UInt8) : List (Option Char) :=
  scalarsBehind none bytes

/-- The text spelled by a byte string without malformed runs. -/
def decode? (bytes : List UInt8) : Option (List Char) :=
  (scalars bytes).mapM id

/-- The text spelled by any byte string, with a replacement character for each malformed run. -/
def decodeLossy (bytes : List UInt8) : List Char :=
  (scalars bytes).map (·.getD '\uFFFD')

/-- The bytes that spell a text. -/
def encode (text : List Char) : List UInt8 :=
  text.flatMap String.utf8EncodeChar

end Testbench.Text
