import Testbench.Proofs.Image.Problems

/-! An image file that is written for some bytes is loaded as these bytes. -/

namespace Testbench

namespace Text

/-- Blanks at the end make no difference to what is left without them. -/
theorem trimEnd_append {blanks : List Char} (blank : ∀ c ∈ blanks, isBlank c = true)
    (text : List Char) : trimEnd (text ++ blanks) = trimEnd text := by
  induction text with
  | nil =>
    rw [List.nil_append]
    -- A text of blanks only is trimmed from its end, until nothing is left.
    induction blanks with
    | nil => rfl
    | cons c rest ih =>
      have trimmed : trimEnd rest = [] := ih fun c among => blank c (List.mem_cons_of_mem _ among)
      simp [trimEnd, trimmed, blank c List.mem_cons_self]
  | cons c rest ih => rw [List.cons_append, trimEnd, trimEnd, ih]

/-- A text without blanks is left as it is. -/
theorem trimEnd_eq_self {text : List Char} (visible : ∀ c ∈ text, isBlank c = false) :
    trimEnd text = text := by
  induction text with
  | nil => rfl
  | cons c rest ih =>
    rw [trimEnd, ih fun c among => visible c (List.mem_cons_of_mem _ among)]
    -- The last character is visible, so it stays, and with it all before.
    cases rest with
    | nil => simp [visible c List.mem_cons_self]
    | cons => rfl

end Text

namespace Image

section Format

/-- Digits of either case are written for some bytes, the last of which comes first. -/
inductive WrittenDigits : List UInt8 → List Char → Prop where
  | none : WrittenDigits [] []
  | byte {byte : UInt8} {bytes : List UInt8} {high low : Char} {digits : List Char}
    (upper : Text.IsDigitOf (byte.toNat / 16) high)
    (lower : Text.IsDigitOf (byte.toNat % 16) low) (later : WrittenDigits bytes digits) :
    WrittenDigits (byte :: bytes) (digits ++ [high, low])

/-- A line is written for some bytes: their digits, and blanks behind them. -/
inductive WrittenLine : List UInt8 → List Char → Prop where
  | line {bytes : List UInt8} {digits blanks : List Char} (written : WrittenDigits bytes digits)
    (blank : ∀ c ∈ blanks, Text.isBlank c = true ∧ c ≠ '\n') :
    WrittenLine bytes (digits ++ blanks)

/--
A file is written for chunks of bytes, line by line.

Each line ends with a line feed, or a carriage return before one.
The last one may have no end.
-/
inductive WrittenFile : List (List UInt8) → List Char → Prop where
  | empty : WrittenFile [] []
  | unended {bytes : List UInt8} {line : List Char} (written : WrittenLine bytes line) :
    WrittenFile [bytes] line
  | ended {bytes : List UInt8} {line ending text : List Char} {chunks : List (List UInt8)}
    (written : WrittenLine bytes line) (ends : ending = ['\n'] ∨ ending = ['\r', '\n'])
    (later : WrittenFile chunks text) :
    WrittenFile (bytes :: chunks) (line ++ ending ++ text)

end Format

section Digits

/-- The pairs of written digits spell the bytes that they are written for. -/
theorem WrittenDigits.spelled {bytes : List UInt8} {digits : List Char}
    (written : WrittenDigits bytes digits) :
    (∀ c ∈ digits, Text.isBlank c = false) ∧ (Text.encode digits).length % 2 = 0 ∧
      Spell (pairUp (Text.encode digits).reverse) bytes := by
  induction written with
  | none => exact ⟨by simp, rfl, rfl⟩
  | byte upper lower later ih =>
    rename_i byte bytes high low digits
    obtain ⟨visible, even, spelled⟩ := ih
    -- Both digits are spelled by a byte each, and have the values of the halves.
    obtain ⟨highVisible, highCode, highSpelled, highValue⟩ := upper.spelled (by
      have := byte.toNat_lt
      omega)
    obtain ⟨lowVisible, lowCode, lowSpelled, lowValue⟩ := lower.spelled (Nat.mod_lt _ (by decide))
    have encoded : Text.encode (digits ++ [high, low]) =
        Text.encode digits ++ [highCode, lowCode] := by
      simp [Text.encode, highSpelled, lowSpelled]
    refine ⟨?_, ?_, ?_⟩
    · simpa [or_imp, forall_and, highVisible, lowVisible] using visible
    · rw [encoded, List.length_append]
      simpa using even
    · -- The digits written last are the first ones from the right.
      rw [encoded, List.reverse_append]
      simp only [List.reverse_cons, List.reverse_nil, List.nil_append, List.cons_append, pairUp]
      have pair := Text.hexByte?_of_values highValue lowValue
      rw [Spell, List.map_cons, List.map_cons, spelled, pair]

/-- A line that is written has an even number of digits, whose pairs spell its bytes. -/
theorem WrittenLine.spelled {bytes : List UInt8} {line : List Char}
    (written : WrittenLine bytes line) :
    (digitsOf line).length % 2 = 0 ∧ Spell (pairsOf line) bytes := by
  -- Trimming takes all blanks, and no digit is one.
  obtain ⟨digits, blank⟩ := written
  obtain ⟨visible, even, spelled⟩ := digits.spelled
  rw [pairsOf, digitsOf, Text.trimEnd_append fun c among => (blank c among).1,
    Text.trimEnd_eq_self visible]
  exact ⟨even, spelled⟩

/-- A line that is written has no line feed in it. -/
theorem WrittenLine.inside {bytes : List UInt8} {line : List Char}
    (written : WrittenLine bytes line) : '\n' ∉ line := by
  obtain ⟨digits, blank⟩ := written
  intro broken
  rcases List.mem_append.mp broken with among | among
  · -- A line feed is blank, and digits are not.
    exact absurd (digits.spelled.1 _ among) (by decide)
  · exact (blank _ among).2 rfl

/-- The carriage return of a line end is one more blank behind the line. -/
theorem WrittenLine.carriageReturn {bytes : List UInt8} {line : List Char}
    (written : WrittenLine bytes line) : WrittenLine bytes (line ++ ['\r']) := by
  obtain ⟨digits, blank⟩ := written
  rw [List.append_assoc]
  refine .line digits fun c among => ?_
  -- The carriage return is a blank itself, so there is one more at the end.
  rcases List.mem_append.mp among with before | last
  · exact blank c before
  · rw [List.mem_singleton.mp last]
    decide

end Digits

section Lines

/-- Bytes without a line end are a line that is not ended. -/
theorem cutLines_of_inside {bytes : List UInt8} (inside : lineEnd ∉ bytes) :
    cutLines bytes = ([], bytes) := by
  -- Each byte that ends no line goes to the front of the one behind it.
  induction bytes with
  | nil => rfl
  | cons byte rest ih =>
    rw [List.mem_cons, not_or] at inside
    rw [cutLines, if_neg (Ne.symm inside.1), ih inside.2]

/-- Bytes up to a line end are the first line. -/
theorem cutLines_append {bytes : List UInt8} (inside : lineEnd ∉ bytes) (rest : List UInt8) :
    cutLines (bytes ++ lineEnd :: rest) = (bytes :: (cutLines rest).1, (cutLines rest).2) := by
  -- The line end closes an empty line, which the bytes before it join one by one.
  induction bytes with
  | nil => rw [List.nil_append, cutLines, if_pos rfl]
  | cons byte bytes ih =>
    rw [List.mem_cons, not_or] at inside
    rw [List.cons_append, cutLines, if_neg (Ne.symm inside.1), ih inside.2]

/-- The bytes of a text without line feeds have no line end among them. -/
theorem lineEnd_not_mem_encode {text : List Char} (inside : '\n' ∉ text) :
    lineEnd ∉ Text.encode text :=
  -- A line feed is one byte, which is no part of any other character.
  fun broken => inside (Text.mem_of_mem_encode (by decide) broken)

/-- A text without line feeds is read as one line, unless it is empty. -/
theorem ofBytes_of_inside {text : List Char} (inside : '\n' ∉ text) :
    Lines.ofBytes (Text.encode text) = { lines := if text = [] then [] else [text] } := by
  cases text with
  | nil => rfl
  | cons c rest =>
    -- Every character has a byte, so the line is not dropped for being empty.
    have nonempty : (Text.encode (c :: rest)).isEmpty = false := by
      rw [Text.encode, List.flatMap_cons]
      simp [String.utf8EncodeChar_ne_nil]
    rw [Lines.ofBytes, cutLines_of_inside (lineEnd_not_mem_encode inside)]
    simp [nonempty, decodeLines, Text.decode?_encode]

/-- A text up to a line feed is read as the first line. -/
theorem ofBytes_append {text : List Char} (inside : '\n' ∉ text) (rest : List Char) :
    Lines.ofBytes (Text.encode (text ++ '\n' :: rest)) =
      { Lines.ofBytes (Text.encode rest) with
        lines := text :: (Lines.ofBytes (Text.encode rest)).lines } := by
  have split : Text.encode (text ++ '\n' :: rest) =
      Text.encode text ++ lineEnd :: Text.encode rest := by
    rw [Text.encode, List.flatMap_append, List.flatMap_cons]
    rfl
  rw [split, Lines.ofBytes, Lines.ofBytes, cutLines_append (lineEnd_not_mem_encode inside)]
  -- Whether the rest has a last line without an end is not up to the first line.
  rcases cutLines (Text.encode rest) with ⟨ended, unended⟩
  cases unended <;> simp [decodeLines, Text.decode?_encode]

/-- A file that is written is read without a fault as lines that spell its bytes. -/
theorem WrittenFile.read {chunks : List (List UInt8)} {text : List Char}
    (written : WrittenFile chunks text) :
    ∃ lines, Lines.ofBytes (Text.encode text) = { lines } ∧
      (∀ line ∈ lines, (digitsOf line).length % 2 = 0) ∧
      Spell (lines.flatMap pairsOf) chunks.flatten := by
  -- Lines are read in the order in which they are written.
  induction written with
  | empty => exact ⟨[], rfl, by simp, rfl⟩
  | unended written =>
    rename_i bytes line
    obtain ⟨even, spelled⟩ := written.spelled
    refine ⟨_, ofBytes_of_inside written.inside, ?_, ?_⟩
    · intro other among
      split at among
      · cases among
      · rw [List.mem_singleton.mp among]
        exact even
    · -- An empty line that is not ended is no line, and has no bytes either.
      split
      · rename_i none
        have nothing : pairsOf line = [] := by rw [none]; rfl
        rw [nothing] at spelled
        simpa using spelled
      · simpa using spelled
  | ended written ends later ih =>
    rename_i bytes line ending text chunks
    obtain ⟨lines, read, even, spelled⟩ := ih
    -- A carriage return stays at the end of the line, where it is one more blank.
    obtain ⟨first, whole, firstWritten⟩ : ∃ first, line ++ ending ++ text = first ++ '\n' :: text ∧
        WrittenLine bytes first := by
      rcases ends with rfl | rfl
      · exact ⟨line, by simp, written⟩
      · exact ⟨line ++ ['\r'], by simp, written.carriageReturn⟩
    obtain ⟨firstEven, firstSpelled⟩ := firstWritten.spelled
    refine ⟨first :: lines, ?_, ?_, ?_⟩
    · rw [whole, ofBytes_append firstWritten.inside, read]
    · exact List.forall_mem_cons.mpr ⟨firstEven, even⟩
    · rw [Spell] at firstSpelled spelled ⊢
      rw [List.flatMap_cons, List.map_append, firstSpelled, spelled, List.flatten_cons,
        List.map_append]

end Lines

section Loading

/--
An image file is loaded as the bytes that it is written for, if there are slots for them.

Whatever the lengths of the lines and of the stores are, every byte goes to the slot of its own, and
all other slots stay as they are.
-/
theorem load_of_written {chunks : List (List UInt8)} {text : List Char}
    (written : WrittenFile chunks text) (lineBytes : Nat) (path : String) {stores : Stores}
    (there : ∀ address < chunks.flatten.length,
      hasSlot (turnBytes lineBytes) address stores = true) :
    let bytes := chunks.flatten
    let turn := max lineBytes 1
    let loaded := load (.ofBytes (Text.encode text)) lineBytes path stores
    loaded.result = .ok bytes.length ∧
      (∀ (address : Nat) (within : address < bytes.length),
        byteAt? loaded.stores
          { store := address / turn % stores.size
            offset := address / turn / stores.size * turn + address % turn } =
          some bytes[address]) ∧
      ∀ slot : Slot, (∀ address < bytes.length, slot ≠ slotOf turn stores.size address) →
        byteAt? loaded.stores slot = byteAt? stores slot := by
  intro bytes turn loaded
  have positive : 0 < turn := turnBytes_pos lineBytes
  obtain ⟨lines, read, even, spelled⟩ := written.read
  have image : (Lines.pairs { lines }).length = bytes.length := spelled.length
  -- Digits are paired, pairs spell and slots are there, so there is no problem to list.
  have fine : Lines.problems (turnBytes lineBytes) path stores { lines } = [] :=
    Lines.problems_eq_nil even (fun _ among => spelled.isSome_of_mem among)
      (fun address within => there address (by rwa [image] at within)) rfl
  have reads : load { lines } lineBytes path stores = loaded :=
    congrArg (load · lineBytes path stores) read.symm
  obtain ⟨stored, outcome⟩ := exists_outcome lineBytes path stores { lines }
  rw [fine, reads] at outcome
  -- Without a problem, what is stored are the bytes that the lines spell.
  have same : stored = bytes := outcome.spelled_all.unique spelled
  subst same
  exact ⟨outcome.result,
    fun address within => outcome.stores.byteAt?_slotOf positive within (there address within),
    fun slot other => outcome.stores.byteAt?_of_ne positive other⟩

/-- Digits of both cases, an empty line and a line without an end load into unequal stores. -/
theorem load_of_mixed_file :
    let text := ['a', 'B', '0', 'd', ' '] ++ ['\r', '\n'] ++ ([] ++ ['\n'] ++ ['3', '0'])
    let stores : Stores := #[#[9, 9, 9], #[8]]
    let loaded := load (.ofBytes (Text.encode text)) 0 "" stores
    WrittenFile [[0x0D, 0xAB], [], [0x30]] text ∧ loaded.result = .ok 3 ∧
      byteAt? loaded.stores { store := 1, offset := 0 } = some 0xAB ∧
      byteAt? loaded.stores { store := 0, offset := 1 } = some 0x30 ∧
      byteAt? loaded.stores { store := 0, offset := 2 } = some 9 := by
  intro text stores loaded
  have first : WrittenDigits [0x0D, 0xAB] (([] ++ ['a', 'B']) ++ ['0', 'd']) :=
    .byte (Or.inl rfl) (Or.inl rfl) (.byte (Or.inl rfl) (Or.inr rfl) .none)
  have last : WrittenDigits [0x30] ([] ++ ['3', '0']) := .byte (Or.inl rfl) (Or.inl rfl) .none
  have written : WrittenFile [[0x0D, 0xAB], [], [0x30]] text :=
    .ended (.line first (List.forall_mem_singleton.mpr (by decide))) (Or.inr rfl)
      (.ended (.line .none nofun) (Or.inl rfl) (.unended (.line last nofun)))
  -- Lines of no bytes make turns of one byte, so the addresses alternate.
  have there : ∀ address < 3, hasSlot (turnBytes 0) address stores = true := by decide
  -- Three bytes in three lines, of which the second is empty.
  obtain ⟨result, bytes, others⟩ := load_of_written written 0 "" there
  have second : byteAt? loaded.stores { store := 1, offset := 0 } = some 0xAB := by
    simpa [stores] using bytes 1 (by decide)
  have third : byteAt? loaded.stores { store := 0, offset := 1 } = some 0x30 := by
    simpa [stores] using bytes 2 (by decide)
  exact ⟨written, result, second, third, others { store := 0, offset := 2 } (by decide)⟩

end Loading

end Image

end Testbench
