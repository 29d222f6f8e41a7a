import Testbench.Text.Utf8

/-! Text that is spelled by bytes is read back from them. -/

namespace Testbench.Text

section Openings

/-- A property of all bytes holds if it holds for their codes. -/
theorem forall_byte {holds : UInt8 → Prop} (codes : ∀ code < 256, holds (UInt8.ofNat code))
    (byte : UInt8) : holds byte := by
  -- A byte is the one made of its own number.
  have this := codes byte.toNat byte.toNat_lt
  rwa [UInt8.ofNat_toNat] at this

/-- A byte below all sequences is a scalar value of its own. -/
theorem opening_ascii : ∀ byte : UInt8, byte.toNat < 0x80 →
    opening byte = ([some (Char.ofNat byte.toNat)], none) :=
  -- Each of these statements is checked for all bytes in turn.
  forall_byte (by decide +kernel)

/-- The first of two bytes holds all bits above those of the second one. -/
theorem opening_two : ∀ byte : UInt8, 0xC2 ≤ byte.toNat ∧ byte.toNat ≤ 0xDF →
    opening byte = ([], some { bits := byte.toNat - 0xC0, later := 0 }) :=
  forall_byte (by decide +kernel)

/-- The first of three bytes narrows the second, against overlong forms and surrogates. -/
theorem opening_three : ∀ byte : UInt8, 0xE0 ≤ byte.toNat ∧ byte.toNat ≤ 0xEF →
    opening byte = ([], some {
      bits := byte.toNat - 0xE0
      later := 1
      low := if byte.toNat = 0xE0 then 0xA0 else 0x80
      high := if byte.toNat = 0xED then 0x9F else 0xBF }) :=
  forall_byte (by decide +kernel)

/-- The first of four bytes narrows the second, against overlong forms and values too large. -/
theorem opening_four : ∀ byte : UInt8, 0xF0 ≤ byte.toNat ∧ byte.toNat ≤ 0xF4 →
    opening byte = ([], some {
      bits := byte.toNat - 0xF0
      later := 2
      low := if byte.toNat = 0xF0 then 0x90 else 0x80
      high := if byte.toNat = 0xF4 then 0x8F else 0xBF }) :=
  forall_byte (by decide +kernel)

/-- The last byte of a sequence completes its scalar value. -/
theorem scalarsBehind_last {bits low high : Nat} {byte : UInt8} (least : low ≤ byte.toNat)
    (most : byte.toNat ≤ high) (rest : List UInt8) :
    scalarsBehind (some { bits, later := 0, low, high }) (byte :: rest) =
      some (Char.ofNat (64 * bits + (byte.toNat - 0x80))) :: scalarsBehind none rest := by
  -- With no byte to come, the bits that were read make up the scalar value.
  simp [scalarsBehind, continuing, least, most]

/-- Any other byte of a sequence adds to the bits that were read. -/
theorem scalarsBehind_more {bits later low high : Nat} {byte : UInt8} (least : low ≤ byte.toNat)
    (most : byte.toNat ≤ high) (rest : List UInt8) :
    scalarsBehind (some { bits, later := later + 1, low, high }) (byte :: rest) =
      scalarsBehind (some { bits := 64 * bits + (byte.toNat - 0x80), later }) rest := by
  -- A continuation carries six bits, and from the next byte on any is allowed.
  simp [scalarsBehind, continuing, least, most]

/-- A byte that begins something decides what comes of the bytes behind it. -/
theorem scalarsBehind_none (byte : UInt8) (rest : List UInt8) :
    scalarsBehind none (byte :: rest) =
      (opening byte).1 ++ scalarsBehind (opening byte).2 rest := by
  -- There is nothing to continue, so the byte is an opening one or an error.
  simp [scalarsBehind]

end Openings

/-- The scalar value of a character is read back from its bytes, whatever follows them. -/
theorem scalarsBehind_utf8EncodeChar (c : Char) (rest : List UInt8) :
    scalarsBehind none (String.utf8EncodeChar c ++ rest) = some c :: scalarsBehind none rest := by
  have valid : c.toNat < 0xD800 ∨ 0xDFFF < c.toNat ∧ c.toNat < 0x110000 := c.valid
  have same : ∀ code, code = c.toNat → some (Char.ofNat code) = some c := by
    intro code spelled
    rw [spelled, Char.ofNat_toNat]
  -- Each byte is made of a number below 256, and gives it back.
  have byte : ∀ code < 256, (UInt8.ofNat code).toNat = code :=
    fun code small => UInt8.toNat_ofNat_of_lt' small
  have bits : c.val.toNat = c.toNat := rfl
  -- The number of bytes goes by the size of the value, whose bits are put together again.
  unfold String.utf8EncodeChar
  simp only [bits]
  split
  · have first := byte c.toNat (by omega)
    rw [List.singleton_append, scalarsBehind_none, opening_ascii _ (by omega), first]
    exact congrArg (· :: _) (same _ rfl)
  · split
    · have first := byte (c.toNat / 64 % 32 + 192) (by omega)
      have last := byte (c.toNat % 64 + 128) (by omega)
      simp only [List.cons_append, List.nil_append]
      rw [scalarsBehind_none, opening_two _ (by omega), List.nil_append,
        scalarsBehind_last (by omega) (by omega), first, last]
      exact congrArg (· :: _) (same _ (by omega))
    · split
      · have first := byte (c.toNat / 4096 % 16 + 224) (by omega)
        have second := byte (c.toNat / 64 % 64 + 128) (by omega)
        have last := byte (c.toNat % 64 + 128) (by omega)
        simp only [List.cons_append, List.nil_append]
        -- The second byte of three is narrowed, and a scalar value is within these bounds.
        rw [scalarsBehind_none, opening_three _ (by omega), List.nil_append,
          scalarsBehind_more (by split <;> omega) (by split <;> omega),
          scalarsBehind_last (by omega) (by omega), first, second, last]
        exact congrArg (· :: _) (same _ (by omega))
      · have first := byte (c.toNat / 262144 % 8 + 240) (by omega)
        have second := byte (c.toNat / 4096 % 64 + 128) (by omega)
        have third := byte (c.toNat / 64 % 64 + 128) (by omega)
        have last := byte (c.toNat % 64 + 128) (by omega)
        simp only [List.cons_append, List.nil_append]
        rw [scalarsBehind_none, opening_four _ (by omega), List.nil_append,
          scalarsBehind_more (by split <;> omega) (by split <;> omega),
          scalarsBehind_more (by omega) (by omega),
          scalarsBehind_last (by omega) (by omega), first, second, third, last]
        exact congrArg (· :: _) (same _ (by omega))

/-- A text is read back from the bytes that spell it. -/
theorem decode?_encode (text : List Char) : decode? (encode text) = some text := by
  -- No character is cut short by the next one, so there is no malformed run.
  have scalars : scalars (encode text) = text.map some := by
    induction text with
    | nil => rfl
    | cons c rest ih =>
      rw [encode, List.flatMap_cons, Text.scalars, scalarsBehind_utf8EncodeChar, List.map_cons,
        ← ih]
      rfl
  rw [decode?, scalars, List.mapM_map]
  exact (List.mapM_pure (m := Option) (f := id) (l := text)).trans (by simp)

/-- A byte of a character is its value, or one of those that spell characters beyond ASCII. -/
theorem toNat_of_mem_utf8EncodeChar {c : Char} {byte : UInt8}
    (spells : byte ∈ String.utf8EncodeChar c) :
    byte.toNat = c.toNat ∨ 0x80 ≤ byte.toNat := by
  have value : ∀ code < 256, (UInt8.ofNat code).toNat = code :=
    fun code small => UInt8.toNat_ofNat_of_lt' small
  have bits : c.val.toNat = c.toNat := rfl
  unfold String.utf8EncodeChar at spells
  simp only [bits] at spells
  -- A value of its own is below the others, which have their highest bit set.
  split at spells
  · rw [List.mem_singleton.mp spells, value _ (by omega)]
    exact Or.inl rfl
  · refine Or.inr ?_
    split at spells
    · simp only [List.mem_cons, List.not_mem_nil, or_false] at spells
      rcases spells with rfl | rfl <;> rw [value _ (by omega)] <;> omega
    · split at spells
      · simp only [List.mem_cons, List.not_mem_nil, or_false] at spells
        rcases spells with rfl | rfl | rfl <;> rw [value _ (by omega)] <;> omega
      · simp only [List.mem_cons, List.not_mem_nil, or_false] at spells
        rcases spells with rfl | rfl | rfl | rfl <;> rw [value _ (by omega)] <;> omega

/-- Only a character of ASCII is spelled by its own byte. -/
theorem mem_of_mem_encode {text : List Char} {c : Char} (ascii : c.toNat < 0x80)
    (spells : UInt8.ofNat c.toNat ∈ encode text) : c ∈ text := by
  obtain ⟨other, among, spelled⟩ := List.mem_flatMap.mp spells
  have value : (UInt8.ofNat c.toNat).toNat = c.toNat :=
    UInt8.toNat_ofNat_of_lt' (show c.toNat < 256 by omega)
  -- The bytes of all other characters are beyond those of ASCII.
  rcases toNat_of_mem_utf8EncodeChar spelled with same | beyond
  · rw [value, Char.toNat_inj] at same
    rwa [same]
  · omega

end Testbench.Text
