import Testbench.Proofs.Marker.Collapse

/-! A detector tells of every marker in the stream that it observes, and of none of them twice. -/

namespace Testbench.Marker

/-- What a detector can be asked for. -/
inductive Event where
  | start
  | stop
  deriving DecidableEq

/-- The marker that makes an event. -/
def Event.marker : Event → List UInt32
  | .start => startMarker
  | .stop => stopMarker

/-- Asks a detector for an event. -/
def Detector.take (event : Event) (detector : Detector) : Bool × Detector :=
  match event with
  | .start => detector.takeStarted
  | .stop => detector.takeStopped

/-- What is done with a detector: it gets an instruction to observe, or is asked for an event. -/
inductive Call where
  | observe (instruction : UInt32)
  | take (event : Event)
  deriving DecidableEq

/-- The instruction that a call gives to observe. -/
def Call.instruction? : Call → Option UInt32
  | .observe instruction => some instruction
  | .take _ => none

/-- Does one call, with its answer if it asks for something. -/
def Detector.perform (call : Call) (detector : Detector) : Option Bool × Detector :=
  match call with
  | .observe instruction => (none, detector.observe instruction)
  | .take event => (some (detector.take event).1, (detector.take event).2)

/-- The detector after some calls. -/
def Detector.after (calls : List Call) (detector : Detector) : Detector :=
  calls.foldl (fun detector call => (detector.perform call).2) detector

/-- The answers to some calls, in order. -/
def Detector.answers : (calls : List Call) → Detector → List Bool
  | [], _ => []
  | call :: calls, detector =>
    (detector.perform call).1.toList ++ answers calls (detector.perform call).2

/-- The instructions that some calls give to observe, in order. -/
def observed (calls : List Call) : List UInt32 :=
  calls.filterMap Call.instruction?

/--
An instruction behind a stream is appended to it, without repetitions, as the last one of an
occurrence of a marker.
-/
def EndsMarker (marker stream : List UInt32) (instruction : UInt32) : Prop :=
  collapse (stream ++ [instruction]) = collapse stream ++ [instruction] ∧
    marker <:+ collapse (stream ++ [instruction])

/-- A marker ends among the observations made since an event was last asked for. -/
def EndsSinceTaken (event : Event) (calls : List Call) : Prop :=
  ∃ before instruction later, calls = before ++ .observe instruction :: later ∧
    .take event ∉ later ∧ EndsMarker event.marker (observed before) instruction

section Calls

variable (calls : List Call) (call : Call)

/-- Calls that follow others are done on the detector after those. -/
theorem Detector.after_append (later : List Call) (detector : Detector) :
    detector.after (calls ++ later) = (detector.after calls).after later :=
  -- The calls are folded over the detector from the first to the last.
  List.foldl_append

/-- One more call is done on the detector after the others. -/
theorem Detector.after_concat (detector : Detector) :
    detector.after (calls ++ [call]) = ((detector.after calls).perform call).2 :=
  -- A single call behind the others is a list of later calls.
  after_append calls [call] detector

/-- One more call gives its instruction behind those of the others. -/
theorem observed_concat :
    observed (calls ++ [call]) = observed calls ++ call.instruction?.toList := by
  rw [observed, List.filterMap_append]
  -- Asking for an event observes no instruction.
  cases call <;> rfl

/-- Asking for an event tells whether it is there, forgets it, and leaves the other one. -/
theorem Detector.take_eq (event other : Event) (detector : Detector) :
    (detector.take event).2.window = detector.window ∧
      ((detector.take event).2.take other).1 =
        (decide (event ≠ other) && (detector.take other).1) := by
  -- There are two events, each with a flag of its own.
  cases event <;> cases other <;> exact ⟨rfl, rfl⟩

/-- A detector shows the end of all that it observed, without repetitions. -/
theorem window_after : (Detector.after calls {}).window = Window.on (observed calls) := by
  -- Only an observation can change the window.
  induction calls using List.reverseRecOn with
  | nil => rfl
  | append_singleton calls call ih =>
    rw [Detector.after_concat, observed_concat]
    cases call with
    | observe instruction => exact congrArg Detector.window (Detector.observe_eq ih instruction)
    | take event =>
      rw [Call.instruction?, Option.toList_none, List.append_nil, ← ih]
      exact (Detector.take_eq event event _).1

end Calls

section Markers

/-- A marker completes with an instruction exactly if an occurrence of it ends there. -/
theorem completes_iff {marker : List UInt32} (whole : marker.length = markerLength)
    (stream : List UInt32) (instruction : UInt32) :
    completes marker stream instruction = true ↔ EndsMarker marker stream instruction := by
  have appended : stream.getLast? ≠ some instruction ↔
      collapse (stream ++ [instruction]) = collapse stream ++ [instruction] := by
    rw [collapse_concat]
    split <;> simp_all
  -- The last instructions are the marker when the marker is a suffix.
  rw [completes, Bool.and_eq_true, bne_iff_ne, beq_iff_eq, EndsMarker, appended,
    List.suffix_iff_eq_drop, whole, List.rtake]
  exact and_congr_right fun _ => eq_comm

/-- Every event is made by a marker of full length. -/
theorem Event.length_marker (event : Event) : event.marker.length = markerLength := by
  -- The two markers are written out with as many instructions as the window holds.
  cases event <;> rfl

/-- An observation adds the events whose markers end with it to those that are there. -/
theorem Detector.take_observe {detector : Detector} {stream : List UInt32}
    (shows : detector.window = Window.on stream) (event : Event) (instruction : UInt32) :
    ((detector.observe instruction).take event).1 =
      ((detector.take event).1 || completes event.marker stream instruction) := by
  rw [observe_eq shows]
  -- An event that was not taken yet stays, and is not counted a second time.
  cases event <;> rfl

/-- One more call may end a marker itself, or else leaves what ended before unless it asks. -/
theorem endsSinceTaken_concat {event : Event} {calls : List Call} {call : Call} :
    EndsSinceTaken event (calls ++ [call]) ↔
      (∃ instruction, call = .observe instruction ∧
        EndsMarker event.marker (observed calls) instruction) ∨
      (call ≠ .take event ∧ EndsSinceTaken event calls) := by
  constructor
  · rintro ⟨before, instruction, later, split, untaken, ends⟩
    rcases List.eq_nil_or_concat' later with rfl | ⟨between, last, rfl⟩
    · -- The marker ends with the last call.
      obtain ⟨rfl, same⟩ := List.append_inj' split rfl
      exact .inl ⟨instruction, List.singleton_inj.mp same, ends⟩
    · rw [← List.cons_append, ← List.append_assoc] at split
      obtain ⟨rfl, same⟩ := List.append_inj' split rfl
      cases List.singleton_inj.mp same
      rw [List.mem_append, List.mem_singleton, not_or] at untaken
      exact .inr ⟨Ne.symm untaken.2, before, instruction, between, rfl, untaken.1, ends⟩
  · rintro (⟨instruction, rfl, ends⟩ | ⟨other, before, instruction, later, rfl, untaken, ends⟩)
    · exact ⟨calls, instruction, [], rfl, List.not_mem_nil, ends⟩
    · refine ⟨before, instruction, later ++ [call], by simp, ?_, ends⟩
      rw [List.mem_append, List.mem_singleton, not_or]
      exact ⟨untaken, Ne.symm other⟩

/-- An event is told of exactly if its marker ended since the event was last asked for. -/
theorem take_after_iff (event : Event) (calls : List Call) :
    ((Detector.after calls {}).take event).1 = true ↔ EndsSinceTaken event calls := by
  -- The last call decides what is added to what was there, or what is forgotten.
  induction calls using List.reverseRecOn with
  | nil =>
    have untold : (Detector.take event {}).1 = false := by cases event <;> rfl
    simp [Detector.after, untold, EndsSinceTaken]
  | append_singleton calls call ih =>
    rw [Detector.after_concat, endsSinceTaken_concat, ← ih]
    cases call with
    | observe instruction =>
      -- What was there before stays, and the instruction may end another occurrence.
      have told := Detector.take_observe (window_after calls) event instruction
      rw [Detector.perform, told, Bool.or_eq_true, completes_iff event.length_marker, or_comm]
      simp only [Call.observe.injEq, exists_eq_left', ne_eq, reduceCtorEq, not_false_eq_true,
        true_and]
    | take other =>
      rw [Detector.perform, (Detector.take_eq other event _).2, Bool.and_eq_true,
        decide_eq_true_eq]
      simp only [reduceCtorEq, false_and, exists_false, false_or, ne_eq, Call.take.injEq]

end Markers

section Stretching

/-- A call that is made some more times in a row if it is an observation. -/
def Call.times (more : Nat) : Call → List Call
  | .observe instruction => List.replicate (more + 1) (.observe instruction)
  | .take event => [.take event]

/-- Calls with each observation made some more times, as given for its position. -/
def stretch (more : Nat → Nat) : List Call → List Call
  | [] => []
  | call :: calls => call.times (more 0) ++ stretch (fun position => more (position + 1)) calls

/-- A repeated observation changes nothing. -/
theorem Detector.observe_observe (instruction : UInt32) (detector : Detector) :
    (detector.observe instruction).observe instruction = detector.observe instruction := by
  -- After an observation, the latest entry of the window is the instruction.
  have latest : (detector.observe instruction).window.entries.getLast? = some instruction := by
    rw [observe]
    cases changes : detector.window.changesWith instruction with
    | true => simp [Window.push, changes]
    | false => simpa [Window.changesWith] using changes
  have same : (detector.observe instruction).window.changesWith instruction = false := by
    rw [Window.changesWith, latest, bne_self_eq_false]
  rw [observe.eq_def _ (detector.observe instruction), same]
  rfl

/-- After an observation, further ones of the same instruction have no effect and no answer. -/
theorem Detector.observe_more (instruction : UInt32) (detector : Detector) (more : Nat) :
    (detector.observe instruction).after (List.replicate more (.observe instruction)) =
        detector.observe instruction ∧
      (detector.observe instruction).answers (List.replicate more (.observe instruction)) = [] := by
  -- Each of them leaves the detector that the first one made.
  induction more with
  | zero => exact ⟨rfl, rfl⟩
  | succ more ih =>
    rw [List.replicate_succ, after, List.foldl_cons, answers, perform, observe_observe]
    exact ih

/-- The answers to calls that follow others are given behind theirs. -/
theorem Detector.answers_append (calls later : List Call) (detector : Detector) :
    detector.answers (calls ++ later) =
      detector.answers calls ++ (detector.after calls).answers later := by
  -- The detector is generalised, as each call leaves the next one to be asked.
  induction calls generalizing detector with
  | nil => rfl
  | cons call calls ih =>
    rw [List.cons_append, answers, answers, ih, List.append_assoc]
    rfl

/-- Stretched calls have the same effect and the same answers. -/
theorem Detector.stretch_eq (calls : List Call) :
    ∀ (more : Nat → Nat) (detector : Detector),
      detector.after (stretch more calls) = detector.after calls ∧
        detector.answers (stretch more calls) = detector.answers calls := by
  induction calls with
  | nil => exact fun _ _ => ⟨rfl, rfl⟩
  | cons call calls ih =>
    intro more detector
    -- A call that is made some more times has the effect and the answer of one call.
    have first : detector.after (call.times (more 0)) = (detector.perform call).2 ∧
        detector.answers (call.times (more 0)) = (detector.perform call).1.toList := by
      cases call with
      | observe instruction => exact observe_more instruction detector (more 0)
      | take event => exact ⟨rfl, List.append_nil _⟩
    obtain ⟨effect, answers⟩ := ih (fun position => more (position + 1)) (detector.perform call).2
    rw [stretch, after_append, answers_append, first.1, first.2, effect, answers]
    exact ⟨rfl, rfl⟩

end Stretching

/-- What a new detector shows and tells after some calls. -/
structure Tells (calls : List Call) : Prop where
  /-- The window holds the last four instructions, without repetitions, or as many as there are. -/
  window :
    let distinct := collapse (observed calls)
    (Detector.after calls {}).window.entries = distinct.rtake (min 4 distinct.length)
  /-- A request tells exactly whether the marker ended in it since the last request. -/
  told : ∀ event, ((Detector.after calls {}).take event).1 = true ↔ EndsSinceTaken event calls
  /-- Instructions may be observed any number of times in a row without a difference. -/
  stretched : ∀ more, Detector.after (stretch more calls) {} = Detector.after calls {} ∧
    Detector.answers (stretch more calls) {} = Detector.answers calls {}

/-- A new detector tells of the markers in the stream that it observes, whatever it is asked. -/
theorem tells (calls : List Call) : Tells calls where
  window := by
    -- The window is the end of the collapsed stream, no longer than a marker.
    simp only [window_after, Window.on, List.rtake, markerLength]
    congr 1
    omega
  told event := take_after_iff event calls
  stretched more := Detector.stretch_eq calls more {}

/-- The end of one start is the begin of another, which is told of when it is complete. -/
example :
    let first : List Call := startMarker.map .observe
    Detector.answers (first ++ [.take .start] ++ first.tail ++ [.take .start, .take .start]) {} =
      [true, true, false] := by
  decide

end Testbench.Marker
