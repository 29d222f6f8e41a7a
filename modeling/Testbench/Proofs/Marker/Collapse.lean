import Mathlib.Data.List.Destutter
import Mathlib.Data.List.DropRight
import Testbench.Marker.Detector

/-! The window of a detector shows the end of the stream it observed, without repetitions. -/

namespace Testbench.Marker

/-- A stream of instructions without those that follow themselves. -/
def collapse (stream : List UInt32) : List UInt32 :=
  stream.destutter (· ≠ ·)

/-- One more instruction stays unless it repeats the last one. -/
theorem collapse_concat (stream : List UInt32) (instruction : UInt32) :
    collapse (stream ++ [instruction]) =
      if stream.getLast? = some instruction then collapse stream
      else collapse stream ++ [instruction] := by
  -- The instruction kept last is the last one of the stream, whichever those before it are.
  have kept : ∀ (rest : List UInt32) (first : UInt32),
      (rest ++ [instruction]).destutter' (· ≠ ·) first =
        if (first :: rest).getLast? = some instruction then rest.destutter' (· ≠ ·) first
        else rest.destutter' (· ≠ ·) first ++ [instruction] := by
    intro rest
    induction rest with
    | nil =>
      intro first
      by_cases same : first = instruction <;> simp [List.destutter', same]
    | cons next rest ih =>
      intro first
      by_cases same : first = next
      · simp [List.destutter', same, ih]
      · simp [List.destutter', same, ih, apply_ite]
  cases stream with
  | nil => rfl
  | cons first rest => exact kept rest first

/-- The last instruction is never one that is left out. -/
theorem getLast?_collapse (stream : List UInt32) :
    (collapse stream).getLast? = stream.getLast? := by
  induction stream using List.reverseRecOn with
  | nil => rfl
  | append_singleton stream instruction ih =>
    rw [collapse_concat]
    split
    · -- A repetition is left out, but the instruction that it repeats stays.
      rename_i same
      rw [ih, same, List.getLast?_concat]
    · rw [List.getLast?_concat, List.getLast?_concat]

/-- The window on a stream shows the end of it, without repetitions. -/
def Window.on (stream : List UInt32) : Window :=
  ⟨(collapse stream).rtake markerLength⟩

/-- An instruction changes the window on a stream unless it repeats the last one. -/
theorem Window.changesWith_on (stream : List UInt32) (instruction : UInt32) :
    (Window.on stream).changesWith instruction = (stream.getLast? != some instruction) := by
  have shown : (Window.on stream).entries.getLast? = (collapse stream).getLast? := by
    rw [Window.on, List.rtake, List.getLast?_drop]
    split
    · rename_i short
      -- Only an empty stream leaves nothing to show.
      have empty : collapse stream = [] := by
        simp only [markerLength] at short
        exact List.length_eq_zero_iff.mp (by omega)
      rw [empty]
      rfl
    · rfl
  rw [changesWith, shown, getLast?_collapse]

/-- A changed window is the window on the longer stream. -/
theorem Window.push_on {stream : List UInt32} {instruction : UInt32}
    (changes : (Window.on stream).changesWith instruction = true) :
    (Window.on stream).push instruction = Window.on (stream ++ [instruction]) := by
  have fresh : stream.getLast? ≠ some instruction := by
    rw [changesWith_on] at changes
    simpa using changes
  rw [push, if_pos changes, Window.on, Window.on, collapse_concat, if_neg fresh]
  -- One entry fewer than before is kept in front of the new one.
  simp only [Window.mk.injEq, markerLength, List.rtake_concat_succ, List.append_left_inj]
  simp only [List.rtake, List.length_drop, List.drop_drop]
  congr 1
  omega

/-- A repeated instruction leaves the window on a stream as it is. -/
theorem Window.on_concat_of_repeat {stream : List UInt32} {instruction : UInt32}
    (repeats : stream.getLast? = some instruction) :
    Window.on (stream ++ [instruction]) = Window.on stream := by
  -- A repetition is collapsed away, so both streams have the same last instructions.
  rw [Window.on, collapse_concat, if_pos repeats, Window.on]

/--
A marker completes with an instruction behind a stream when that is not repeated, and the last
instructions, without repetitions, are the marker then.
-/
def completes (marker : List UInt32) (stream : List UInt32) (instruction : UInt32) : Bool :=
  stream.getLast? != some instruction &&
    (collapse (stream ++ [instruction])).rtake markerLength == marker

/-- A start and a stop never complete together. -/
theorem completes_exclusive {stream : List UInt32} {instruction : UInt32}
    (starts : completes startMarker stream instruction = true) :
    completes stopMarker stream instruction = false := by
  -- Both would have to be the window behind the instruction, and they differ.
  have distinct : (startMarker == stopMarker) = false := by decide
  simp only [completes, Bool.and_eq_true, beq_iff_eq] at starts
  rw [completes, starts.2, distinct, Bool.and_false]

/-- A detector on a stream has acted on every marker in it. -/
def Detector.on (stream : List UInt32) : Detector :=
  { window := Window.on stream }

/-- One more instruction is told as a marker when it completes one, or else if one is untold. -/
theorem Detector.observe_eq {detector : Detector} {stream : List UInt32}
    (shows : detector.window = Window.on stream) (instruction : UInt32) :
    detector.observe instruction =
      { window := Window.on (stream ++ [instruction])
        started := detector.started || completes startMarker stream instruction
        stopped := detector.stopped || completes stopMarker stream instruction } := by
  rw [observe, shows]
  cases changes : (Window.on stream).changesWith instruction with
  | true =>
    -- The markers are compared with the window on the longer stream.
    simp only [if_true, Window.push_on changes]
    rw [Window.changesWith_on] at changes
    simp only [completes, changes, Bool.true_and]
    rfl
  | false =>
    rw [Window.changesWith_on] at changes
    have repeats : stream.getLast? = some instruction := by simpa using changes
    simp [completes, changes, Window.on_concat_of_repeat repeats, ← shows]

/-- One more instruction is told as a marker exactly when it completes one. -/
theorem Detector.observe_on (stream : List UInt32) (instruction : UInt32) :
    (Detector.on stream).observe instruction =
      { window := Window.on (stream ++ [instruction])
        started := completes startMarker stream instruction
        stopped := completes stopMarker stream instruction } :=
  -- This detector shows the window of its stream, which is all that the step asks for.
  observe_eq rfl instruction

end Testbench.Marker
