import Testbench.Proofs.Channel.Unwritten
import Testbench.Proofs.Image.Contents
import Testbench.Proofs.Memory.Contents
import Testbench.Session.Preload

/-! What an image has stored is what a design reads, as long as it has written nothing. -/

namespace Testbench.Session

/-- The bytes of an image in the word of a channel, and zeros where the word goes beyond it. -/
def imageWord (bytes : List UInt8) (turn channels channel width offset : Nat) : List UInt8 :=
  (List.range width).map fun lane =>
    bytes.getD (Image.addressOf turn channels ⟨channel, offset + lane⟩) 0

/-- The stores behind memories that were allocated are blank. -/
theorem blank_storesOf {bytes : UInt64} {beatBytes : Nat} {memories : List Memory.Ideal}
    (allocated : ∀ memory ∈ memories, Memory.Ideal.allocate bytes beatBytes = .ok memory) :
    Image.Blank memories.length bytes.toNat (storesOf memories) := by
  intro slot
  have store : (storesOf memories)[slot.store]? = memories[slot.store]?.map Memory.cells := by
    simp [storesOf]
  rw [Image.byteAt?, store]
  -- There are as many stores as memories, and each is the cells of its memory.
  cases found : memories[slot.store]? with
  | none => simp [Nat.not_lt.mpr (List.getElem?_eq_none_iff.mp found)]
  | some memory =>
    have among : slot.store < memories.length := (List.getElem?_eq_some_iff.mp found).1
    have blank := Memory.Ideal.eq_of_allocate (allocated memory (List.mem_of_getElem? found))
    have cells : Memory.cells memory = Array.replicate bytes.toNat 0 := by rw [blank]; rfl
    simp [cells, among, Array.getElem?_replicate]

/-- Preloaded memories hold the bytes of the image in turns, and nothing was asked of them yet. -/
theorem holding_of_preload {bytes : UInt64} {beatBytes lineBytes count : Nat} {path : String}
    {image : Image.Lines} {memories : List Memory.Ideal}
    (allocated : ∀ memory ∈ memories, Memory.Ideal.allocate bytes beatBytes = .ok memory)
    (accepted : (preload image lineBytes path memories).result = .ok count) :
    ∃ contents, Image.bytes? image.lines = some contents ∧ contents.length = count ∧
      ∀ channel memory, (preload image lineBytes path memories).memories[channel]? = some memory →
        ∃ cells : Array UInt8, memory = .holding cells beatBytes ∧ cells.size = bytes.toNat ∧
          ∀ offset < bytes.toNat, cells.getD offset 0 =
            contents.getD (Image.addressOf (Image.turnBytes lineBytes) memories.length
              ⟨channel, offset⟩) 0 := by
  have blank := blank_storesOf allocated
  obtain ⟨contents, spelled, length, holds⟩ := Image.load_ok blank accepted
  refine ⟨contents, spelled, length, fun channel memory found => ?_⟩
  let stores := (Image.load image lineBytes path (storesOf memories)).stores
  have channels : (storesOf memories).size = memories.length := by simp [storesOf]
  -- The memory of a channel was allocated, and got the store of its number.
  rw [preload, withStores, List.getElem?_mapIdx, Option.map_eq_some_iff] at found
  obtain ⟨old, before, given⟩ := found
  have among : channel < memories.length := (List.getElem?_eq_some_iff.mp before).1
  have there : channel < stores.size := by
    rw [holds.size, channels]
    exact among
  have store : stores[channel]? = some stores[channel] := Array.getElem?_eq_getElem there
  have memory_eq : memory = .holding stores[channel] beatBytes := by
    rw [← given, store, Memory.Ideal.eq_of_allocate (allocated old (List.mem_of_getElem? before))]
    rfl
  -- The store was blank, so what is in it is the image or zero.
  have held := holds.store blank among store
  rw [channels] at held
  exact ⟨stores[channel], memory_eq, held⟩

/--
A design reads the image from preloaded memories, as long as it has written nothing.

On every channel, a read of one word within the memory is answered by the bytes of the image whose
turn it is there, and by zeros beyond the end of the image.
-/
theorem reads_of_preload {bytes : UInt64} {beatBytes lineBytes count : Nat} {path : String}
    {image : Image.Lines} {memories : List Memory.Ideal}
    (allocated : ∀ memory ∈ memories, Memory.Ideal.allocate bytes beatBytes = .ok memory)
    (accepted : (preload image lineBytes path memories).result = .ok count) :
    let preloaded := (preload image lineBytes path memories).memories
    let width := max beatBytes 1
    ∃ contents, Image.bytes? image.lines = some contents ∧ contents.length = count ∧
      preloaded.length = memories.length ∧
      ∀ (base : UInt64) (channel : Nat) (memory : Memory.Ideal) (trace : List Offers),
        preloaded[channel]? = some memory →
        let fresh := Channel.ofMemory base channel memory
        Channel.acceptedBeats (fresh.log trace) = [] →
        ∀ (offers : Offers) (offset : Nat), offers.read.valid = true → offers.read.lastBeat = 0 →
          offers.read.address.toNat = base.toNat + offset →
          width ∣ offset → offset + width ≤ bytes.toNat →
          (fresh.run trace).AnswersWord offers
            (imageWord contents (max lineBytes 1) memories.length channel width offset) := by
  intro preloaded width
  obtain ⟨contents, spelled, length, holds⟩ := holding_of_preload allocated accepted
  refine ⟨contents, spelled, length, by simp [preloaded, preload, withStores], ?_⟩
  intro base channel memory trace found fresh unwritten offers offset valid single address
    aligned within
  obtain ⟨cells, rfl, size, byte⟩ := holds channel memory found
  have idle : fresh.memory.Answering := nofun
  -- A channel of new memory has seen no write, which is where the trace begins.
  have start : Channel.Unwritten fresh fresh := ⟨idle, rfl, rfl, rfl⟩
  rw [← size] at within byte
  have read := (start.run trace unwritten).read valid single address aligned within
  -- Every lane of the word is within the memory, and thus a byte of the image or zero.
  have word : (List.range width).map (fun lane => cells.getD (offset + lane) 0) =
      imageWord contents (max lineBytes 1) memories.length channel width offset := by
    refine List.map_congr_left fun lane onBus => byte _ ?_
    exact Nat.lt_of_lt_of_le (Nat.add_lt_add_left (List.mem_range.mp onBus) _) within
  rw [← word]
  exact read

/-- The second line of an image comes back to the first channel, behind the turn of the second. -/
theorem reads_of_second_line :
    let image : Image.Lines := { lines := ["04030201 ".toList, "0605".toList] }
    let blank : Memory.Ideal := .holding #[0, 0, 0, 0] 2
    let read : AddressRequest := { valid := true, address := 0x80000002 }
    ∃ memory, (preload image 2 "image.hex" [blank, blank]).memories[0]? = some memory ∧
      ((Channel.ofMemory 0x80000000 0 memory).run [{ takesRead := true }]).AnswersWord { read }
        [5, 6] := by
  intro image blank read
  have allocated : ∀ memory ∈ [blank, blank], Memory.Ideal.allocate 4 2 = .ok memory := by
    simp only [List.mem_cons, List.not_mem_nil, or_false, or_self, forall_eq]
    rfl
  -- Six bytes in turns of two: first channel, second channel, first channel again.
  have accepted : (preload image 2 "image.hex" [blank, blank]).result = .ok 6 := by decide +kernel
  obtain ⟨contents, spelled, -, -, reads⟩ := reads_of_preload allocated accepted
  have bytes : contents = [1, 2, 3, 4, 5, 6] := Option.some.inj (spelled.symm.trans rfl)
  obtain ⟨memory, first⟩ : ∃ memory,
      (preload image 2 "image.hex" [blank, blank]).memories[0]? = some memory := ⟨_, rfl⟩
  have unwritten : Channel.acceptedBeats
      ((Channel.ofMemory 0x80000000 0 memory).log [{ takesRead := true }]) = [] := by
    cases first
    rfl
  -- The second turn of the first channel is two bytes behind its base.
  have word := reads 0x80000000 0 memory [{ takesRead := true }] first unwritten { read } 2
    rfl rfl rfl (by decide) (by decide)
  rw [bytes] at word
  exact ⟨memory, first, word⟩

end Testbench.Session
