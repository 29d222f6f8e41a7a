import Testbench.Proofs.Bench.Tracing

/-! The windows of a run: which of its cycles are printed and dumped, and under which numbers. -/

namespace Testbench

/-- Calls made of several items for one other purpose dump nothing. -/
theorem Call.filterMap_dump?_map_eq_nil {α : Type} {make : α → Call}
    (others : ∀ item, (make item).purpose ≠ .dump) (items : List α) :
    (items.map make).filterMap dump? = [] :=
  filterMap_dump?_eq_nil (List.forall_mem_map.mpr fun item _ => others item)

namespace Cycle

/-- A cycle prints the design at most once. -/
theorem countP_print (cycle : Cycle) :
    cycle.calls.countP (fun call => call.purpose == .print) =
      if cycle.printed?.isSome then 1 else 0 := by
  have served : (servingCalls cycle.settled).countP (fun call => call.purpose == .print) = 0 := by
    rw [List.countP_eq_zero]
    intro call made
    rcases purpose_of_mem_servingCalls made with purpose | purpose <;> simp [purpose]
  have settles : [settleCall cycle.settled].countP (fun call => call.purpose == .print) = 0 := by
    cases cycle.settled <;> rfl
  -- What is left are the drives, the print and the dump, which tell their purpose at once.
  simp only [calls, List.countP_append, List.countP_map, served, settles]
  cases cycle.printed? <;> cases cycle.dumped? <;> simp [Call.purpose, Function.comp_def]

/-- A cycle dumps the design at most once. -/
theorem filterMap_dump? (cycle : Cycle) :
    cycle.calls.filterMap Call.dump? = cycle.dumped?.toList := by
  -- Serving ticks and exchanges, settling settles: neither dumps.
  have served : (servingCalls cycle.settled).filterMap Call.dump? = [] := by
    refine Call.filterMap_dump?_eq_nil fun call made => ?_
    rcases purpose_of_mem_servingCalls made with purpose | purpose <;> simp [purpose]
  have settles : [settleCall cycle.settled].filterMap Call.dump? = [] := by
    cases cycle.settled <;> rfl
  simp only [calls, List.filterMap_append, served, settles]
  rw [Call.filterMap_dump?_map_eq_nil (by simp [Call.purpose]) cycle.shown]
  -- What is left are the print, the dump and the commit.
  cases cycle.printed? <;> cases cycle.dumped? <;> rfl

end Cycle

namespace Round

/-- A round prints as its cycle does. -/
theorem countP_print (round : Round) :
    round.calls.countP (fun call => call.purpose == .print) =
      if round.cycle.printed?.isSome then 1 else 0 := by
  -- In front of its cycle a round has the calls of a question only.
  have asks : (Question.calls { told := round.told, answer := false }).countP
      (fun call => call.purpose == .print) = 0 := by
    rw [List.countP_eq_zero]
    intro call made
    simp [Question.purpose_of_mem made]
  rw [calls, List.countP_append, asks, Nat.zero_add, Cycle.countP_print]

/-- A round dumps as its cycle does. -/
theorem filterMap_dump? (round : Round) :
    round.calls.filterMap Call.dump? = round.cycle.dumped?.toList := by
  have asks : (Question.calls { told := round.told, answer := false }).filterMap Call.dump? =
      [] := by
    refine Call.filterMap_dump?_eq_nil fun call made => ?_
    simp [Question.purpose_of_mem made]
  rw [calls, List.filterMap_append, asks, List.nil_append, Cycle.filterMap_dump?]

end Round

/-- The dumps that some rounds ask for, in order. -/
def dumpsOf (rounds : List Round) : List (UInt64 × Option SystemFault) :=
  (rounds.flatMap Round.calls).filterMap Call.dump?

namespace Trace

/-- The numbers in the window of a recorder with some start: zero, and those from the start on. -/
def window (start : UInt64) (counts : List UInt64) : List UInt64 :=
  counts.filter fun count => count = 0 ∨ start ≤ count

/-- One more number is in the window or not. -/
theorem window_concat (start : UInt64) (counts : List UInt64) (count : UInt64) :
    window start (counts ++ [count]) =
      window start counts ++ if count = 0 ∨ start ≤ count then [count] else [] := by
  -- A filter treats the last number on its own.
  rw [window, List.filter_append, List.filter_cons]
  simp only [decide_eq_true_eq]
  rfl

/-- Dumps under the numbers of a list, one after another up to the first dump that fails. -/
structure Cut (numbers : List UInt64) (dumps : List (UInt64 × Option SystemFault)) : Prop where
  inOrder : dumps.map Prod.fst <+: numbers
  /-- Nothing is left out as long as no dump fails. -/
  complete : Whole dumps → dumps.map Prod.fst = numbers
  /-- No dump follows on one that has failed. -/
  ends : Whole dumps.dropLast

/-- Without any number there are no dumps. -/
theorem Cut.nil : Cut [] [] where
  -- No dump was left out, and none has failed.
  inOrder := List.prefix_rfl
  complete _ := rfl
  ends := by simp [Whole]

/-- As long as no dump has failed, one more follows under the next number in the window. -/
theorem Cut.concat {start : UInt64} {counts : List UInt64}
    {dumps : List (UInt64 × Option SystemFault)} {dumped? : Option (UInt64 × Option SystemFault)}
    {count : UInt64} (cut : Cut (window start counts) dumps)
    (next : dumped?.map Prod.fst =
      if Whole dumps ∧ (count = 0 ∨ start ≤ count) then some count else none) :
    Cut (window start (counts ++ [count])) (dumps ++ dumped?.toList) := by
  rw [window_concat]
  by_cases whole : Whole dumps
  · by_cases wanted : count = 0 ∨ start ≤ count
    · obtain ⟨dump, rfl, same⟩ : ∃ dump, dumped? = some dump ∧ dump.1 = count := by
        simpa [wanted, whole] using next
      have numbers : (dumps ++ [dump]).map Prod.fst = window start counts ++ [count] := by
        rw [List.map_append, cut.complete whole, List.map_singleton, same]
      rw [Option.toList_some, if_pos wanted]
      -- If the new dump fails, it is the last one, and all before it were written.
      exact {
        inOrder := numbers ▸ List.prefix_rfl
        complete := fun _ => numbers
        ends := by rwa [List.dropLast_concat] }
    · -- The number is not in the window, so nothing changes.
      have quiet : dumped? = none := by simpa [wanted] using next
      rwa [quiet, Option.toList_none, List.append_nil, if_neg wanted, List.append_nil]
  · -- A dump has failed before, and none follows on it.
    have quiet : dumped? = none := by simpa [whole] using next
    rw [quiet, Option.toList_none, List.append_nil]
    exact {
      inOrder := cut.inOrder.trans (List.prefix_append _ _)
      complete := fun sound => absurd sound whole
      ends := cut.ends }

end Trace

/-- A completed start marker sets the counter to zero, and otherwise it stays what it was. -/
theorem Progress.cycles_watch (instruction : UInt32) (progress : Progress) :
    (progress.watch instruction).counter.cycles =
      if (progress.detector.observe instruction).started = true then 0
      else progress.counter.cycles := by
  -- A stop marker completed by the same instruction reads the counter, but leaves it.
  simp only [watch, takeStop, takeStart]
  split <;> rfl

namespace Bench

section Recorder

variable {D H M : Type}

/-- A recorder that is left wants the cycles in its window, and without one none is wanted. -/
theorem numberFor_of_leaves {dumps : List (UInt64 × Option SystemFault)}
    {recorder : Trace.Recorder} {last? : Option Trace.Recorder}
    (leaves : Trace.Leaves dumps (some recorder) last?) (count : UInt64) :
    numberFor last? count =
      if Trace.Whole dumps ∧ (count = 0 ∨ recorder.start ≤ count) then some count else none := by
  rcases leaves.result with ⟨whole, left⟩ | ⟨broken, left⟩
  · -- Counting the records does not move the start of the window.
    simp [left, numberFor, Trace.records, whole]
  · simp [left, numberFor, broken]

end Recorder

section Asking

variable {D H M : Type} [Host H]

/-- Asking whether to go on leaves the settings alone. -/
theorem settings_asked (bench : Bench D H M) : bench.asked.settings = bench.settings := by
  obtain ⟨_, _, _, same⟩ := bench.asked_eq
  rw [same]

end Asking

variable {D H M : Type} [Design D] [Host H] [Memory M]

section Settings

/-- A cycle leaves the settings alone. -/
theorem settings_step (requested : Bool) (bench : Bench D H M) :
    (bench.step requested).settings = bench.settings := by
  obtain ⟨_, _, settled⟩ := bench.settledIn_eq requested
  -- A design that fails to settle is observed in another way, but the settings stay either way.
  have observed : (bench.beforeCommit requested).settings =
      (bench.settledIn requested).2.settings := by
    unfold beforeCommit
    cases bench.faultIn with
    | none =>
      obtain ⟨_, _, _, _, _, _, _, _, same⟩ := (bench.settledIn requested).2.observe_none_eq
      rw [same]
      rfl
    | some fault =>
      obtain ⟨_, _, _, _, same⟩ := (bench.settledIn requested).2.observe_some_eq fault
      rw [same]
  have committed : (bench.step requested).settings = (bench.beforeCommit requested).settings := by
    rw [step_eq_commit]
    rfl
  rw [committed, observed, settled]

/-- A run leaves the settings alone. -/
theorem settings_after (requests : Nat → Bool) (cycles : Nat) (bench : Bench D H M) :
    (bench.after requests cycles).settings = bench.settings := by
  -- Neither the question nor the step of a cycle changes the settings.
  induction cycles with
  | zero => rfl
  | succ cycles ih => rw [after, settings_step, settings_asked, ih]

end Settings

section Counting

/-- The instruction that is watched in a cycle, if there is one, completes a start marker. -/
def restartsIn (requested : Bool) (bench : Bench D H M) : Bool :=
  (bench.watched? requested).any fun instruction => (bench.detector.observe instruction).started

/-- Nothing is watched in a cycle whose design fails to settle, so no marker is completed. -/
theorem restartsIn_of_fault {bench : Bench D H M} (requested : Bool)
    (fails : bench.faultIn.isSome = true) : bench.restartsIn requested = false := by
  -- Only an instruction that is watched can complete a marker.
  rw [restartsIn, watched?_eq_none_iff.mpr fails]
  rfl

/-- A cycle is counted by the counter, which a start marker sets back to zero. -/
theorem countIn_eq (requested : Bool) (bench : Bench D H M) :
    bench.countIn requested =
      if bench.restartsIn requested = true then 0 else bench.counter.cycles := by
  cases watched : bench.watched? requested with
  | none =>
    have fails := watched?_eq_none_iff.mp watched
    obtain ⟨fault, found⟩ := Option.isSome_iff_exists.mp fails
    -- A fault counts as the end of the run, and the counter stays.
    have counted : (bench.beforeCommit requested).progress = bench.progress.fail fault :=
      progress_beforeCommit_of_fault found
    rw [restartsIn_of_fault requested fails]
    exact congrArg (fun progress => progress.counter.cycles) counted
  | some instruction =>
    have counted : (bench.beforeCommit requested).progress = bench.progress.watch instruction :=
      progress_beforeCommit_of_watched watched
    have restarts : bench.restartsIn requested = (bench.detector.observe instruction).started := by
      rw [restartsIn, watched]
      rfl
    rw [restarts]
    exact (congrArg (fun progress => progress.counter.cycles) counted).trans
      (bench.progress.cycles_watch instruction)

/-- The bench at the beginning of a cycle of a run, once the host was asked. -/
def entering (requests : Nat → Bool) (index : Nat) (bench : Bench D H M) : Bench D H M :=
  (bench.after requests index).asked

/-- The number of a cycle of a run: the counter in it once markers are handled. -/
def countAt (requests : Nat → Bool) (index : Nat) (bench : Bench D H M) : UInt64 :=
  (bench.entering requests index).countIn (requests index)

/-- The numbers of the first cycles of a run. -/
def counts (requests : Nat → Bool) (cycles : Nat) (bench : Bench D H M) : List UInt64 :=
  (List.range cycles).map fun index => bench.countAt requests index

/-- One more cycle has one more number. -/
theorem counts_succ (requests : Nat → Bool) (cycles : Nat) (bench : Bench D H M) :
    bench.counts requests (cycles + 1) =
      bench.counts requests cycles ++ [bench.countAt requests cycles] := by
  -- The range of cycles grows at its end.
  rw [counts, List.range_succ, List.map_append]
  rfl

end Counting

section Rounds

variable {channels : Nat} {requests : Nat → Bool} {rounds : List Round} {bench : Bench D H M}

/-- The dumps up to some cycle of a run are those of the first rounds. -/
theorem Runs.dumps (runs : bench.Runs channels requests rounds) {index : Nat}
    (within : index ≤ rounds.length) :
    (bench.after requests index).dumps = bench.dumps ++ dumpsOf (rounds.take index) := by
  -- The journal has grown by the calls of these rounds, and dumps are read from it.
  rw [Bench.dumps, (runs.makes index within).noted, List.filterMap_append]
  rfl

/-- A cycle is dumped under its number, if that is in the window and no dump has failed yet. -/
theorem Runs.numbered (runs : bench.Runs channels requests rounds) {recorder : Trace.Recorder}
    (attached : bench.recorder = some recorder) {index : Nat} {round : Round}
    (position : rounds[index]? = some round) :
    round.cycle.dumped?.map Prod.fst =
      if Trace.Whole (dumpsOf (rounds.take index)) ∧
        (bench.countAt requests index = 0 ∨ recorder.start ≤ bench.countAt requests index)
      then some (bench.countAt requests index) else none := by
  have within : index < rounds.length := (List.getElem?_eq_some_iff.mp position).1
  obtain ⟨dumps, traced⟩ := bench.traces_after requests index
  -- What the recorder was left with tells whether one of the dumps before has failed.
  have same : dumpsOf (rounds.take index) = dumps :=
    List.append_cancel_left ((runs.dumps (Nat.le_of_lt within)).symm.trans traced.noted)
  have leaves := traced.leaves
  rw [attached] at leaves
  rw [(runs index round position).numbered, recorder_asked, same]
  exact numberFor_of_leaves leaves _

/-- The dumps up to some cycle of a run are those of its window, up to the first that fails. -/
theorem Runs.cut (runs : bench.Runs channels requests rounds) {recorder : Trace.Recorder}
    (attached : bench.recorder = some recorder) (index : Nat) (within : index ≤ rounds.length) :
    Trace.Cut (Trace.window recorder.start (bench.counts requests index))
      (dumpsOf (rounds.take index)) := by
  -- One more cycle has one more number, and at most one more dump.
  induction index with
  | zero => exact .nil
  | succ index ih =>
    have position := List.getElem?_eq_getElem within
    have further : dumpsOf (rounds.take (index + 1)) =
        dumpsOf (rounds.take index) ++ rounds[index].cycle.dumped?.toList := by
      rw [List.take_add_one, position, Option.toList_some, dumpsOf, List.flatMap_append,
        List.flatMap_singleton, List.filterMap_append, Round.filterMap_dump?]
      rfl
    rw [counts_succ, further]
    exact (ih (Nat.le_of_succ_le within)).concat (runs.numbered attached position)

/-- The windows of a run: what is printed and dumped in its rounds, with a recorder attached. -/
structure Windows (start : UInt64) (requests : Nat → Bool) (bench : Bench D H M)
    (rounds : List Round) : Prop where
  /-- Each round makes the calls of one cycle of the run. -/
  made : ∀ (index : Nat) (round : Round), rounds[index]? = some round →
    Makes round.calls (bench.after requests index) (bench.after requests (index + 1))
  /-- The number of a cycle is zero if a start marker resets the counter, and else the counter. -/
  counted : ∀ index, let entered := bench.entering requests index
    bench.countAt requests index =
      if entered.restartsIn (requests index) = true then 0 else entered.counter.cycles
  /-- A cycle whose design fails to settle is counted all the same, and resets nothing. -/
  failing : ∀ index, let entered := bench.entering requests index
    entered.faultIn.isSome = true → bench.countAt requests index = entered.counter.cycles
  /-- A verbose run prints once in each cycle from some value of the counter on, whatever fails. -/
  printed : ∀ (index : Nat) (round : Round), rounds[index]? = some round →
    round.calls.countP (fun call => call.purpose == .print) =
      if bench.settings.verbose = true ∧
        bench.settings.traceStart ≤ (bench.entering requests index).counter.cycles
      then 1 else 0
  /-- The numbers in the window are dumped, up to the first dump that fails. -/
  dumped : Trace.Cut (Trace.window start (bench.counts requests rounds.length)) (dumpsOf rounds)
  /-- Each cycle dumps its own number. -/
  numbered : ∀ (index : Nat) (round : Round), rounds[index]? = some round →
    (round.calls.filterMap Call.dump?).map Prod.fst =
      if Trace.Whole (dumpsOf (rounds.take index)) ∧
        (bench.countAt requests index = 0 ∨ start ≤ bench.countAt requests index)
      then [bench.countAt requests index] else []
  /-- The first cycle is always dumped when the counter is at zero before it. -/
  first : bench.counter.cycles = 0 → ∀ round, rounds[0]? = some round →
    (round.calls.filterMap Call.dump?).map Prod.fst = [0]
  /-- A cycle in which the counter is reset is dumped as long as no dump has failed. -/
  restarted : ∀ (index : Nat) (round : Round), rounds[index]? = some round →
    (bench.entering requests index).restartsIn (requests index) = true →
    Trace.Whole (dumpsOf (rounds.take index)) →
    (round.calls.filterMap Call.dump?).map Prod.fst = [0]

/-- A run with a recorder attached keeps to its windows. -/
theorem Runs.windows (runs : bench.Runs channels requests rounds) {recorder : Trace.Recorder}
    (attached : bench.recorder = some recorder) :
    bench.Windows recorder.start requests rounds := by
  -- The numbers decide what is dumped, so these two facts come before the others.
  have counted : ∀ index, bench.countAt requests index =
      if (bench.entering requests index).restartsIn (requests index) = true then 0
      else (bench.entering requests index).counter.cycles :=
    fun index => (bench.entering requests index).countIn_eq (requests index)
  have numbered : ∀ (index : Nat) (round : Round), rounds[index]? = some round →
      (round.calls.filterMap Call.dump?).map Prod.fst =
        if Trace.Whole (dumpsOf (rounds.take index)) ∧
          (bench.countAt requests index = 0 ∨ recorder.start ≤ bench.countAt requests index)
        then [bench.countAt requests index] else [] := by
    intro index round position
    rw [Round.filterMap_dump?, ← Option.toList_map, runs.numbered attached position]
    split <;> rfl
  constructor
  case made => exact fun index round position => (runs index round position).made
  case counted => exact counted
  case failing =>
    intro index entered fails
    have resets : entered.restartsIn (requests index) = false := restartsIn_of_fault _ fails
    rw [counted, if_neg (by simpa using resets)]
  case printed =>
    intro index round position
    have printed := (runs index round position).printed
    rw [Round.countP_print, printed, Bench.prints, entering, settings_asked, settings_after]
    simp only [Bool.and_eq_true, decide_eq_true_eq]
  case dumped =>
    -- Of all rounds, the dumps are cut where the first of them has failed.
    have cut := runs.cut attached rounds.length (Nat.le_refl _)
    rwa [List.take_length] at cut
  case numbered => exact numbered
  case first =>
    intro fresh round position
    have counter : (bench.entering requests 0).counter = bench.counter :=
      congrArg Progress.counter bench.progress_asked
    -- With the counter at zero, the number is zero whether a start marker resets it or not.
    have zero : bench.countAt requests 0 = 0 := by
      rw [counted, counter]
      exact ite_eq_left_iff.mpr fun _ => fresh
    have none : Trace.Whole (dumpsOf (rounds.take 0)) := nofun
    rw [numbered 0 round position, zero, if_pos ⟨none, Or.inl rfl⟩]
  case restarted =>
    intro index round position restarts whole
    have zero : bench.countAt requests index = 0 := by
      rw [counted, if_pos restarts]
    rw [numbered index round position, zero, if_pos ⟨whole, Or.inl rfl⟩]

/-- Every run with a recorder attached is printed and dumped in its windows, and nowhere else. -/
theorem windows_of_run {settings : Settings} {design : D} {host : H} {memories : List M}
    {start : Bench D H M} (assembled : assemble settings design host memories = .ok start)
    (reached : start.Reached bench) {recorder : Trace.Recorder}
    (attached : bench.recorder = some recorder) (requests : Nat → Bool) :
    (∀ cycles, bench.Lasts requests cycles →
      ∃ rounds : List Round, rounds.length = cycles ∧
        bench.Windows recorder.start requests rounds) ∧
    (∀ limit late summary final, bench.run? requests limit late = some (summary, final) →
      ∃ run : Rounds, run.rounds.length ≤ limit ∧ bench.EndsAfter requests run.rounds.length ∧
        Makes run.calls bench final ∧ bench.Windows recorder.start requests run.rounds ∧
        final.dumps = bench.dumps ++ dumpsOf run.rounds ∧
        ∀ call ∈ run.closing.calls, call.purpose ≠ .print) := by
  have wired := reached.wired (wired_of_assemble assembled)
  constructor
  · intro cycles lasts
    obtain ⟨rounds, length, runs⟩ := exists_runs wired lasts
    exact ⟨rounds, length, runs.windows attached⟩
  · intro limit late summary final ran
    obtain ⟨cycles, short, ends, finished⟩ := run?_eq_some_iff.mp ran
    obtain ⟨rounds, length, runs⟩ := exists_runs wired ends.1
    subst length
    obtain ⟨closing, closed⟩ := makes_finish late (bench.after requests rounds.length)
    rw [finished] at closed
    have whole : Makes (Rounds.calls ⟨rounds, closing⟩) bench final :=
      runs.makes_all.append closed
    -- Behind the last round the host is asked and reports, and nothing is printed or dumped.
    have behind : ∀ call ∈ closing.calls, call.purpose ≠ .print ∧ call.purpose ≠ .dump := by
      intro call made
      rcases Closing.purpose_of_mem made with purpose | purpose <;> simp [purpose]
    have quiet := Call.filterMap_dump?_eq_nil fun call made => (behind call made).2
    refine ⟨⟨rounds, closing⟩, short, ends, whole, runs.windows attached, ?_,
      fun call made => (behind call made).1⟩
    -- So the dumps of the run are those of its rounds.
    rw [Bench.dumps, whole.noted, List.filterMap_append, Rounds.calls, List.filterMap_append, quiet,
      List.append_nil]
    rfl

/--
A run whose counter restarts in the fourth of nine cycles, with a trace that fails late.

The number zero is dumped twice although the window starts at three, and the number five is not
dumped any more although it is in the window.
-/
theorem windows_of_restarted_run :
    let start := reportingBench { cycleLimit := 6, traceStart := 3, verbose := true }
      Marker.startMarker none {}
    let bench := { start with
      recorder := some { start := 3 }, sinks := { trace := some (.withRoom 3) } }
    let requests := fun _ => false
    ∃ summary final, bench.run? requests 9 = some (summary, final) ∧
      bench.dumps = [] ∧ bench.counts requests 9 = [0, 1, 2, 0, 1, 2, 3, 4, 5] ∧
      final.dumps = [(0, none), (0, none), (3, none), (4, some (.closed "closed"))] ∧
      ∃ run : Rounds, run.rounds.length ≤ 9 ∧ bench.EndsAfter requests run.rounds.length ∧
        Makes run.calls bench final ∧ bench.Windows 3 requests run.rounds ∧
        final.dumps = bench.dumps ++ dumpsOf run.rounds ∧
        ∀ call ∈ run.closing.calls, call.purpose ≠ .print := by
  intro start bench requests
  have assembled := assemble_reportingBench
    { cycleLimit := 6, traceStart := 3, verbose := true } Marker.startMarker
  have reached : start.Reached bench := Reached.start.attach _ _
  have attached : bench.recorder = some { start := 3 } := rfl
  -- The marker ends in the fourth cycle, whose number is set back to zero.
  have counts : bench.counts requests 9 = [0, 1, 2, 0, 1, 2, 3, 4, 5] := by decide +kernel
  -- The trace has room for three lines, so the fourth dump is the one that fails.
  have dumped : (bench.run? requests 9).map (fun run => run.2.dumps) =
      some [(0, none), (0, none), (3, none), (4, some (.closed "closed"))] := by
    decide +kernel
  obtain ⟨⟨summary, final⟩, ran, dumps⟩ := Option.map_eq_some_iff.mp dumped
  have windows := (windows_of_run assembled reached attached requests).2 9 false summary final ran
  exact ⟨summary, final, ran, rfl, counts, dumps, windows⟩

end Rounds

end Bench

end Testbench
