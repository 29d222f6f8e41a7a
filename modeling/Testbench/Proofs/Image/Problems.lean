import Testbench.Image.Load
import Testbench.Proofs.Image.Placement
import Testbench.Proofs.Text.Hexadecimal

/-! An image is loaded up to the first of its problems, and the bytes before that stay stored. -/

namespace Testbench.Image

section Spelling

/-- The pairs of digits given from the right, each with the more significant digit first. -/
def pairUp : List UInt8 → List (UInt8 × UInt8)
  | low :: high :: rest => (high, low) :: pairUp rest
  | _ => []

/-- The pairs of digits in a line, in the order of their addresses. -/
def pairsOf (line : List Char) : List (UInt8 × UInt8) :=
  pairUp (digitsOf line).reverse

/-- Pairs of digits spell some bytes, one each. -/
def Spell (pairs : List (UInt8 × UInt8)) (bytes : List UInt8) : Prop :=
  (pairs.map fun pair => Text.hexByte? pair.1 pair.2) = bytes.map some

/-- There are as many bytes as pairs that spell them. -/
theorem Spell.length {pairs : List (UInt8 × UInt8)} {bytes : List UInt8}
    (spelled : Spell pairs bytes) : pairs.length = bytes.length := by
  -- Pairs and bytes have the same list of answers.
  simpa using congrArg List.length spelled

/-- Pairs spell one list of bytes at most. -/
theorem Spell.unique {pairs : List (UInt8 × UInt8)} {bytes others : List UInt8}
    (spelled : Spell pairs bytes) (alsoSpelled : Spell pairs others) : bytes = others :=
  -- The bytes are read from the pairs, so they cannot be two different lists.
  (List.map_inj_right fun _ _ => Option.some.inj).mp (spelled.symm.trans alsoSpelled)

/-- Pairs that spell bytes are made of digits. -/
theorem Spell.isSome_of_mem {pairs : List (UInt8 × UInt8)} {bytes : List UInt8}
    (spelled : Spell pairs bytes) {pair : UInt8 × UInt8} (among : pair ∈ pairs) :
    (Text.hexByte? pair.1 pair.2).isSome = true := by
  -- The answer for each pair is among the bytes, and these are all there.
  have byte : Text.hexByte? pair.1 pair.2 ∈ bytes.map some := by
    rw [← spelled]
    exact List.mem_map_of_mem among
  obtain ⟨value, -, found⟩ := List.mem_map.mp byte
  rw [← found]
  rfl

/-- One more pair spells one more byte. -/
theorem Spell.concat {pairs : List (UInt8 × UInt8)} {bytes : List UInt8} {high low byte : UInt8}
    (spelled : Spell pairs bytes) (pair : Text.hexByte? high low = some byte) :
    Spell (pairs ++ [(high, low)]) (bytes ++ [byte]) := by
  rw [Spell, List.map_append, List.map_append, spelled, List.map_singleton, pair,
    List.map_singleton]

end Spelling

section Problems

/-- Something that is wrong with an image. -/
structure Problem where
  /-- The number of bytes before it, which is the address of the byte that it is about. -/
  address : Nat
  fault : SetupFault
  deriving DecidableEq

/-- A single problem, in case that there is one. -/
def problemIf (wrong : Bool) (address : Nat) (fault : SetupFault) : List Problem :=
  if wrong then [{ address, fault }] else []

/-- What is wrong with the byte at an address: its digits come before its slot. -/
def pairProblems (turn line address : Nat) (stores : Stores) (pair : UInt8 × UInt8) :
    List Problem :=
  let digits := LineFault.notDigits (Text.decodeLossy [pair.1, pair.2])
  problemIf (!(Text.isHexDigit pair.1 && Text.isHexDigit pair.2)) address
      (.imageMalformed line digits.reason) ++
    problemIf (!hasSlot turn address stores) address (.imageOutOfRange address)

/-- What is wrong with a line whose lowest byte is at an address, with its bytes from the right. -/
def lineProblems (turn line start : Nat) (stores : Stores) (text : List Char) : List Problem :=
  let count := (digitsOf text).length
  problemIf (count % 2 != 0) start (.imageMalformed line (LineFault.oddDigits count).reason) ++
    problemIf (stores.isEmpty && count != 0) start (.imageOutOfRange start) ++
    ((pairsOf text).zipIdx start).flatMap fun (pair, address) =>
      pairProblems turn line address stores pair

/-- What is wrong with the line at a position, which follows on the bytes of those before it. -/
def problemsAt (turn : Nat) (stores : Stores) (lines : List (List Char)) (index : Nat) :
    List Problem :=
  let start := ((lines.take index).flatMap pairsOf).length
  -- Lines are counted from one.
  lineProblems turn (index + 1) start stores (lines.getD index [])

/-- The pairs of digits in an image, each at the position of its address. -/
def Lines.pairs (image : Lines) : List (UInt8 × UInt8) :=
  image.lines.flatMap pairsOf

/-- Everything that is wrong with an image, in the order in which it is come across. -/
def Lines.problems (turn : Nat) (path : String) (stores : Stores) (image : Lines) : List Problem :=
  (List.range image.lines.length).flatMap (problemsAt turn stores image.lines) ++
    image.fault.toList.map fun cause =>
      { address := image.pairs.length, fault := .imageUnread path cause }

/-- The bytes of a line come behind those of the lines before. -/
theorem length_pairs_succ {lines : List (List Char)} {index : Nat} (within : index < lines.length) :
    ((lines.take (index + 1)).flatMap pairsOf).length =
      ((lines.take index).flatMap pairsOf).length + (pairsOf (lines.getD index [])).length := by
  have text : lines.getD index [] = lines[index] := by simp [within]
  -- The first lines and the next one make the first lines, one more of them.
  rw [text, ← List.take_append_getElem within, List.flatMap_append, List.length_append,
    List.flatMap_singleton]

/-- There are half as many pairs as digits, without a digit that is left over. -/
theorem length_pairUp : ∀ digits : List UInt8, (pairUp digits).length = digits.length / 2
  | [] => rfl
  | [_] => by simp [pairUp]
  | low :: high :: rest => by
    -- Two digits make one pair, and both are taken from the list.
    simp only [pairUp, List.length_cons, length_pairUp rest]
    omega

/-- A line has half as many bytes as digits. -/
theorem length_pairsOf (line : List Char) : (pairsOf line).length = (digitsOf line).length / 2 := by
  rw [pairsOf, length_pairUp, List.length_reverse]

/-- Nothing is wrong with a line of paired digits whose bytes have slots. -/
theorem lineProblems_eq_nil {turn start : Nat} {stores : Stores} {text : List Char} (line : Nat)
    (even : (digitsOf text).length % 2 = 0)
    (digits : ∀ pair ∈ pairsOf text, (Text.hexByte? pair.1 pair.2).isSome = true)
    (there : ∀ address < start + (pairsOf text).length, hasSlot turn address stores = true) :
    lineProblems turn line start stores text = [] := by
  have pairs : ∀ item ∈ (pairsOf text).zipIdx start,
      pairProblems turn line item.2 stores item.1 = [] := by
    intro item among
    have spelled := digits item.1 (List.fst_mem_of_mem_zipIdx among)
    rw [Text.isSome_hexByte?] at spelled
    simp [pairProblems, problemIf, spelled, there item.2 (List.snd_lt_add_of_mem_zipIdx among)]
  -- Without stores, there is no slot for the first byte, so there are no digits.
  have room : (stores.isEmpty && (digitsOf text).length != 0) = false := by
    rw [Bool.and_eq_false_iff, bne_eq_false_iff_eq]
    by_cases none : (pairsOf text).length = 0
    · rw [length_pairsOf] at none
      exact Or.inr (by omega)
    · have first := there start (by omega)
      refine Or.inl (Bool.eq_false_iff.mpr fun empty => ?_)
      rw [Array.isEmpty_iff.mp empty] at first
      simp [hasSlot] at first
  rw [lineProblems]
  simp only [even, room]
  exact List.flatMap_eq_nil_iff.mpr pairs

/-- Nothing is wrong with an image of paired digits whose bytes have slots. -/
theorem Lines.problems_eq_nil {turn : Nat} {path : String} {stores : Stores} {image : Lines}
    (even : ∀ line ∈ image.lines, (digitsOf line).length % 2 = 0)
    (digits : ∀ pair ∈ image.pairs, (Text.hexByte? pair.1 pair.2).isSome = true)
    (there : ∀ address < image.pairs.length, hasSlot turn address stores = true)
    (whole : image.fault = none) : image.problems turn path stores = [] := by
  rw [problems, whole, Option.toList_none, List.map_nil, List.append_nil, List.flatMap_eq_nil_iff]
  intro index among
  have within := List.mem_range.mp among
  have text : image.lines.getD index [] ∈ image.lines := by simp [within]
  refine lineProblems_eq_nil (index + 1) (even _ text) ?_ ?_
  · exact fun pair inLine => digits pair (List.mem_flatMap.mpr ⟨_, text, inLine⟩)
  · intro address below
    -- The bytes of this line are among those of the image.
    have among : image.pairs.length = ((image.lines.take (index + 1)).flatMap pairsOf).length +
        ((image.lines.drop (index + 1)).flatMap pairsOf).length := by
      rw [← List.length_append, ← List.flatMap_append, List.take_append_drop, pairs]
    rw [length_pairs_succ within] at among
    exact there address (by omega)

/-- An image with nothing wrong has an even number of digits in every line. -/
theorem even_of_problems_eq_nil {turn : Nat} {path : String} {stores : Stores} {image : Lines}
    (fine : image.problems turn path stores = []) :
    ∀ line ∈ image.lines, (digitsOf line).length % 2 = 0 := by
  intro line among
  obtain ⟨index, within, rfl⟩ := List.mem_iff_getElem.mp among
  have here := List.flatMap_eq_nil_iff.mp (List.append_eq_nil_iff.mp fine).1 index
    (List.mem_range.mpr within)
  rw [problemsAt, lineProblems, List.append_eq_nil_iff, List.append_eq_nil_iff] at here
  -- An odd number would be the first problem of the line.
  have paired := here.1.1
  simpa [problemIf, within] using paired

end Problems

section Order

/-- Problems come in the order of their addresses, from a lowest to a highest one. -/
structure InOrder (lowest highest : Nat) (problems : List Problem) : Prop where
  sorted : problems.Pairwise fun problem later => problem.address ≤ later.address
  within : ∀ problem ∈ problems, lowest ≤ problem.address ∧ problem.address ≤ highest

/-- Where there is no problem, the order is kept. -/
theorem inOrder_nil (lowest highest : Nat) : InOrder lowest highest [] where
  sorted := .nil
  within := by simp

/-- A single problem is in order if there is room for its address. -/
theorem inOrder_problemIf {lowest highest address : Nat} (above : lowest ≤ address)
    (below : address ≤ highest) (wrong : Bool) (fault : SetupFault) :
    InOrder lowest highest (problemIf wrong address fault) := by
  -- A list of one is sorted, and its only address is within the bounds.
  cases wrong with
  | false => exact inOrder_nil _ _
  | true => exact ⟨List.pairwise_singleton _ _, by simpa [problemIf] using ⟨above, below⟩⟩

/-- Problems may come before others if they are about bytes before theirs. -/
theorem InOrder.append {lowest between highest : Nat} {problems later : List Problem}
    (first : InOrder lowest between problems) (second : InOrder between highest later)
    (above : lowest ≤ between) (below : between ≤ highest) :
    InOrder lowest highest (problems ++ later) where
  sorted := by
    -- What separates the two lists is the bound between them.
    refine List.pairwise_append.mpr ⟨first.sorted, second.sorted, ?_⟩
    -- Both bounds are widened to those of the whole list.
    intro problem among other last
    exact Nat.le_trans (first.within problem among).2 (second.within other last).1
  within := by
    intro problem among
    rcases List.mem_append.mp among with early | late
    · obtain ⟨least, most⟩ := first.within problem early
      exact ⟨least, Nat.le_trans most below⟩
    · obtain ⟨least, most⟩ := second.within problem late
      exact ⟨Nat.le_trans above least, most⟩

/-- The problems of pairs are in order, as their addresses go up one by one. -/
theorem inOrder_pairs (turn line : Nat) (stores : Stores) (pairs : List (UInt8 × UInt8)) :
    ∀ start, InOrder start (start + pairs.length)
      ((pairs.zipIdx start).flatMap fun (pair, address) =>
        pairProblems turn line address stores pair) := by
  induction pairs with
  | nil => exact fun start => inOrder_nil _ _
  | cons pair rest ih =>
    intro start
    -- Both problems of a byte are at its address, and those of the others start at the next one.
    have here : InOrder start (start + 1) (pairProblems turn line start stores pair) :=
      (inOrder_problemIf (Nat.le_refl start) (Nat.le_refl start) _ _).append
        (inOrder_problemIf (Nat.le_refl start) (Nat.le_succ start) _ _)
        (Nat.le_refl start) (Nat.le_succ start)
    have later := ih (start + 1)
    rw [List.zipIdx_cons, List.flatMap_cons, List.length_cons]
    refine here.append ?_ (Nat.le_succ start) (by omega)
    simpa only [Nat.add_assoc, Nat.add_comm 1] using later

/-- The problems of a line are in order, those with the whole line first. -/
theorem inOrder_lineProblems (turn line start : Nat) (stores : Stores) (text : List Char) :
    InOrder start (start + (pairsOf text).length) (lineProblems turn line start stores text) := by
  -- What is wrong with the whole line is told at its first byte.
  have single := inOrder_problemIf (Nat.le_refl start) (Nat.le_refl start)
  have pairs := inOrder_pairs turn line stores (pairsOf text) start
  exact ((single _ _).append (single _ _) (Nat.le_refl start) (Nat.le_refl start)).append pairs
    (Nat.le_refl start) (Nat.le_add_right start _)

/-- The problems of the first lines are in order. -/
theorem inOrder_lines (turn : Nat) (stores : Stores) (lines : List (List Char)) (count : Nat)
    (within : count ≤ lines.length) :
    InOrder 0 ((lines.take count).flatMap pairsOf).length
      ((List.range count).flatMap (problemsAt turn stores lines)) := by
  -- One more line starts at the address behind the lines before.
  induction count with
  | zero => exact inOrder_nil _ _
  | succ count ih =>
    have earlier := ih (Nat.le_of_succ_le within)
    have last := inOrder_lineProblems turn (count + 1) ((lines.take count).flatMap pairsOf).length
      stores (lines.getD count [])
    rw [List.range_succ, List.flatMap_append, List.flatMap_singleton,
      length_pairs_succ (Nat.lt_of_succ_le within)]
    exact earlier.append last (Nat.zero_le _) (Nat.le_add_right _ _)

/-- The problems of an image are in order, with a failure of the reading last. -/
theorem inOrder_problems (turn : Nat) (path : String) (stores : Stores) (image : Lines) :
    InOrder 0 image.pairs.length (image.problems turn path stores) := by
  have lines := inOrder_lines turn stores image.lines image.lines.length (Nat.le_refl _)
  rw [List.take_length] at lines
  refine lines.append ?_ (Nat.zero_le _) (Nat.le_refl _)
  -- A reading that failed did so behind the last line that was read.
  cases image.fault with
  | none => exact inOrder_nil _ _
  | some cause =>
    exact inOrder_problemIf (Nat.le_refl _) (Nat.le_refl _) true (.imageUnread path cause)

end Order

/-- What loading some bytes comes to, when it stops at the first of some problems. -/
structure Outcome (turn : Nat) (pairs : List (UInt8 × UInt8)) (problems : List Problem)
    (before : Stores) (bytes : List UInt8) (loaded : Loaded) : Prop where
  /-- The first problem is reported, and if there is none, the number of bytes. -/
  result : loaded.result =
    match problems with
    | [] => .ok bytes.length
    | problem :: _ => .error problem.fault
  /-- The bytes are those below the first problem, and if there is none, all of them. -/
  length : bytes.length =
    match problems with
    | [] => pairs.length
    | problem :: _ => problem.address
  spelled : Spell (pairs.take bytes.length) bytes
  stores : Overwritten turn bytes before loaded.stores

/-- Without a problem, the bytes are spelled by all pairs. -/
theorem Outcome.spelled_all {turn : Nat} {pairs : List (UInt8 × UInt8)} {before : Stores}
    {bytes : List UInt8} {loaded : Loaded} (outcome : Outcome turn pairs [] before bytes loaded) :
    Spell pairs bytes := by
  have spelled := outcome.spelled
  -- All pairs were spelled, so taking as many as there are bytes takes them all.
  rwa [outcome.length, List.take_length] at spelled

section Steps

variable {turn : Nat} {pairs : List (UInt8 × UInt8)} {before stores : Stores} {bytes : List UInt8}

/-- Loading is complete when no pairs are left. -/
theorem outcome_of_complete (spelled : Spell pairs bytes)
    (overwritten : Overwritten turn bytes before stores) :
    Outcome turn pairs [] before bytes ⟨.ok bytes.length, stores⟩ where
  -- As many bytes as pairs, and all of them in the stores.
  result := rfl
  length := spelled.length.symm
  spelled := by rwa [← spelled.length, List.take_length]
  stores := overwritten

/-- Loading stops at a problem with the byte that is next. -/
theorem outcome_of_problem (spelled : Spell pairs bytes)
    (overwritten : Overwritten turn bytes before stores) (fault : SetupFault)
    (later : List (UInt8 × UInt8)) (others : List Problem) :
    Outcome turn (pairs ++ later) ({ address := bytes.length, fault } :: others) before bytes
      ⟨.error fault, stores⟩ where
  -- The address of the problem is the number of bytes in the stores.
  result := rfl
  length := rfl
  spelled := by rwa [← spelled.length, List.take_left]
  stores := overwritten

/-- The fault of the first problem is the result. -/
theorem Outcome.eq_of_problem {problem : Problem} {others : List Problem} {loaded : Loaded}
    (outcome : Outcome turn pairs (problem :: others) before bytes loaded) :
    loaded = ⟨.error problem.fault, loaded.stores⟩ := by
  -- The first problem fixes the result, and the stores are left to be named.
  have result : loaded.result = .error problem.fault := outcome.result
  rw [← result]

/-- What lies behind the first problem does not matter. -/
theorem Outcome.append {problem : Problem} {others : List Problem} {loaded : Loaded}
    (outcome : Outcome turn pairs (problem :: others) before bytes loaded)
    (later : List (UInt8 × UInt8)) (more : List Problem) :
    Outcome turn (pairs ++ later) (problem :: others ++ more) before bytes loaded where
  result := outcome.result
  length := outcome.length
  spelled := by
    -- All bytes are spelled by pairs among the first ones.
    have within := outcome.spelled.length
    rw [List.length_take, Nat.min_def] at within
    rw [List.take_append_of_le_length (by split at within <;> omega)]
    exact outcome.spelled
  stores := outcome.stores

/-- Digits from the right are stored up to the first problem with one of their pairs. -/
theorem outcome_storeDigits (positive : 0 < turn) (line : Nat) :
    ∀ (digits : List UInt8) {pairs : List (UInt8 × UInt8)} {bytes : List UInt8} {stores : Stores},
      Spell pairs bytes → Overwritten turn bytes before stores →
        ∃ all, Outcome turn (pairs ++ pairUp digits)
          (((pairUp digits).zipIdx bytes.length).flatMap fun (pair, address) =>
            pairProblems turn line address before pair)
          before all (storeDigits line turn bytes.length stores digits)
  | [], _, bytes, _, spelled, overwritten | [_], _, bytes, _, spelled, overwritten =>
    ⟨bytes, by simpa [pairUp, storeDigits] using outcome_of_complete spelled overwritten⟩
  | low :: high :: rest, pairs, bytes, stores, spelled, overwritten => by
    have digits := Text.isSome_hexByte? high low
    simp only [storeDigits, pairUp, List.zipIdx_cons, List.flatMap_cons]
    cases pair : Text.hexByte? high low with
    | none =>
      -- Malformed digits are a problem whether there is a slot for the byte or not.
      rw [pair] at digits
      refine ⟨bytes, ?_⟩
      simp only [pairProblems, ← digits]
      exact outcome_of_problem spelled overwritten _ _ _
    | some byte =>
      rw [pair] at digits
      simp only [pairProblems, ← digits, overwritten.hasSlot_after]
      cases there : hasSlot turn bytes.length before with
      | false =>
        -- The digits are fine, so what is wrong first is that the byte has no slot.
        refine ⟨bytes, ?_⟩
        exact outcome_of_problem spelled overwritten _ _ _
      | true =>
        -- The byte of this pair is stored, and the others follow on it.
        obtain ⟨all, outcome⟩ := outcome_storeDigits positive line rest (spelled.concat pair)
          (overwritten.place positive byte)
        simp only [List.length_append, List.length_singleton, List.append_assoc] at outcome
        exact ⟨all, outcome⟩

/-- A line is stored up to the first of its problems. -/
theorem outcome_storeLine (positive : 0 < turn) (line : Nat) (spelled : Spell pairs bytes)
    (overwritten : Overwritten turn bytes before stores) (text : List Char) :
    ∃ all, Outcome turn (pairs ++ pairsOf text) (lineProblems turn line bytes.length before text)
      before all (storeLine line turn bytes.length (digitsOf text) stores) := by
  have noStores : stores.isEmpty = before.isEmpty := by
    simp only [Array.isEmpty, overwritten.size]
  have noDigits : (!(digitsOf text).isEmpty) = ((digitsOf text).length != 0) := by
    cases digitsOf text <;> rfl
  unfold storeLine lineProblems problemIf
  simp only [noStores, noDigits, bne_iff_ne]
  -- Both problems of the whole line come before any byte of it is looked at.
  split
  · exact ⟨bytes, outcome_of_problem spelled overwritten _ _ _⟩
  · split
    · exact ⟨bytes, outcome_of_problem spelled overwritten _ _ _⟩
    · exact outcome_storeDigits positive line _ spelled overwritten

/-- Lines behind others are stored up to the first of their problems. -/
theorem outcome_storeLines (positive : 0 < turn) (lines : List (List Char)) :
    ∀ (earlier : List (List Char)) {bytes : List UInt8} {stores : Stores},
      Spell (earlier.flatMap pairsOf) bytes → Overwritten turn bytes before stores →
        ∃ all, Outcome turn ((earlier ++ lines).flatMap pairsOf)
          ((List.range' earlier.length lines.length).flatMap
            (problemsAt turn before (earlier ++ lines)))
          before all (storeLines turn (earlier.length + 1) bytes.length stores lines) := by
  induction lines with
  | nil =>
    intro earlier bytes stores spelled overwritten
    rw [List.append_nil]
    exact ⟨bytes, outcome_of_complete spelled overwritten⟩
  | cons text rest ih =>
    intro earlier bytes stores spelled overwritten
    obtain ⟨all, first⟩ := outcome_storeLine positive (earlier.length + 1) spelled overwritten text
    -- The line at this position is the next one, and its first byte comes behind the others.
    have here : problemsAt turn before (earlier ++ text :: rest) earlier.length =
        lineProblems turn (earlier.length + 1) bytes.length before text := by
      rw [problemsAt, List.take_left, spelled.length]
      simp
    have whole : earlier ++ text :: rest = (earlier ++ [text]) ++ rest := by simp
    have count : (earlier ++ [text]).length = earlier.length + 1 := by simp
    have upTo : (earlier ++ [text]).flatMap pairsOf = earlier.flatMap pairsOf ++ pairsOf text := by
      simp
    rw [List.length_cons, List.range'_succ, List.flatMap_cons, here, storeLines]
    cases problems : lineProblems turn (earlier.length + 1) bytes.length before text with
    | nil =>
      rw [problems] at first
      -- The whole line is stored, so the next one follows on its bytes.
      have done : Spell ((earlier ++ [text]).flatMap pairsOf) all := by
        rw [upTo]
        exact first.spelled_all
      have later := ih (earlier ++ [text]) done first.stores
      rw [← whole, count] at later
      simp only [first.result, List.nil_append]
      exact later
    | cons problem others =>
      rw [problems] at first
      -- The lines behind this one are not even looked at.
      simp only [first.result]
      rw [whole, List.flatMap_append, upTo, ← first.eq_of_problem]
      exact ⟨all, first.append _ _⟩

end Steps

/-- Loading an image goes as far as to the first of its problems. -/
theorem exists_outcome (lineBytes : Nat) (path : String) (stores : Stores) (image : Lines) :
    let turn := turnBytes lineBytes
    ∃ bytes, Outcome turn image.pairs (image.problems turn path stores) stores bytes
      (load image lineBytes path stores) := by
  intro turn
  have positive : 0 < turn := turnBytes_pos lineBytes
  have empty : Spell (([] : List (List Char)).flatMap pairsOf) [] := rfl
  have stored := outcome_storeLines positive image.lines [] empty (.none turn stores)
  simp only [List.nil_append, List.length_nil, Nat.zero_add, ← List.range_eq_range'] at stored
  obtain ⟨bytes, outcome⟩ := stored
  refine ⟨bytes, ?_⟩
  unfold load Lines.problems Lines.pairs
  -- The first problem of the lines decides, and only without one that of the reading.
  cases found : (List.range image.lines.length).flatMap (problemsAt turn stores image.lines) with
  | nil =>
    rw [found] at outcome
    have result : (storeLines turn 1 0 stores image.lines).result = .ok bytes.length :=
      outcome.result
    have spelled := outcome.spelled_all
    simp only [turn, result, List.nil_append]
    -- The lines are all stored, so a failure of the reading is the first problem, if there is one.
    cases image.fault with
    | none => exact outcome
    | some cause =>
      have unread := outcome_of_problem spelled outcome.stores (.imageUnread path cause) [] []
      rw [← spelled.length, List.append_nil] at unread
      exact unread
  | cons problem others =>
    rw [found] at outcome
    have result : (storeLines turn 1 0 stores image.lines).result = .error problem.fault :=
      outcome.result
    have stopped := outcome.append [] (image.fault.toList.map fun cause =>
      { address := (image.lines.flatMap pairsOf).length, fault := .imageUnread path cause })
    rw [List.append_nil] at stopped
    simp only [turn, result]
    exact stopped

/--
An image is loaded if nothing is wrong with it, and otherwise up to its first problem.

No other problem is about a lower address, and just the bytes below it are stored.
-/
theorem load_stops_at_problem (lineBytes : Nat) (path : String) (stores : Stores) (image : Lines) :
    let turn := turnBytes lineBytes
    let problems := image.problems turn path stores
    let loaded := load image lineBytes path stores
    (loaded.result.isOk = true ↔ problems = []) ∧
      (problems.Pairwise fun problem later => problem.address ≤ later.address) ∧
      ∃ bytes, Outcome turn image.pairs problems stores bytes loaded := by
  intro turn problems loaded
  obtain ⟨bytes, outcome⟩ := exists_outcome lineBytes path stores image
  refine ⟨?_, (inOrder_problems turn path stores image).sorted, bytes, outcome⟩
  -- The result is made of the first problem, so it is a fault if there is one.
  have result := outcome.result
  cases found : image.problems turn path stores with
  | nil =>
    rw [found] at result
    simp [loaded, problems, result, found, Except.isOk, Except.toBool]
  | cons problem others =>
    rw [found] at result
    simp [loaded, problems, result, found, Except.isOk, Except.toBool]

/-- A sign is no digit, which is noticed before the byte is found to have no slot. -/
example :
    let loaded := load { lines := [['0', '1'], ['0', '4', '+', '3', '0', '2', ' ']] } 1 ""
      #[#[0], #[0]]
    loaded.result = .error (.imageMalformed 2 (LineFault.notDigits ['+', '3']).reason) ∧
      loaded.stores = #[#[1], #[2]] :=
  ⟨rfl, rfl⟩

end Testbench.Image
