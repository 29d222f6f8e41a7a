import Mathlib.Algebra.GroupWithZero.Nat
import Testbench.Proofs.Bench.Order
import Testbench.Proofs.Bench.Staged

/-! A run asks its host, then goes through a cycle, in rounds up to a reason to stop. -/

namespace Testbench

/-- A question to the host whether it has finished. -/
structure Question where
  /-- The host was told to finish just before. -/
  told : Bool
  answer : Bool

/-- The calls of a question. -/
def Question.calls (question : Question) : List Call :=
  (if question.told then [.stop] else []) ++ [.finished question.answer]

/-- A round of a run: the host has not finished, so a cycle follows. -/
structure Round where
  /-- The host was told to finish just before it was asked. -/
  told : Bool
  cycle : Cycle

/-- The calls of a round. -/
def Round.calls (round : Round) : List Call :=
  Question.calls { told := round.told, answer := false } ++ round.cycle.calls

/-- How the calls of a run end: the host may be asked twice, and reports its status in between. -/
structure Closing where
  /-- The question that found the reason to stop, unless the host was not even asked. -/
  stopping? : Option Question
  status : Int32
  /-- The question that tells completion from a lack of time. -/
  ending? : Option Question

/-- The calls behind the last round of a run. -/
def Closing.calls (closing : Closing) : List Call :=
  closing.stopping?.toList.flatMap Question.calls ++ [.status closing.status] ++
    closing.ending?.toList.flatMap Question.calls

/-- The rounds of a run and what follows on them. -/
structure Rounds where
  rounds : List Round
  closing : Closing

/-- The calls of a run. -/
def Rounds.calls (run : Rounds) : List Call :=
  run.rounds.flatMap Round.calls ++ run.closing.calls

/-- Every call of a question asks the host. -/
theorem Question.purpose_of_mem {question : Question} {call : Call}
    (made : call ∈ question.calls) : call.purpose = .ask := by
  obtain ⟨told, answer⟩ := question
  simp only [calls, List.mem_append, List.mem_singleton] at made
  -- Telling the host to finish is part of asking it, as the host is asked right after.
  rcases made with telling | rfl
  · cases told with
    | false => cases telling
    | true =>
      rw [List.mem_singleton.mp telling]
      rfl
  · rfl

/-- Behind the last round, the host is asked, and reports. -/
theorem Closing.purpose_of_mem {closing : Closing} {call : Call} (made : call ∈ closing.calls) :
    call.purpose = .ask ∨ call.purpose = .report := by
  simp only [calls, List.mem_append, List.mem_flatMap, List.mem_singleton] at made
  -- A question, the report between them, and another question.
  rcases made with (⟨question, _, asks⟩ | rfl) | ⟨question, _, asks⟩
  · exact Or.inl (Question.purpose_of_mem asks)
  · exact Or.inr rfl
  · exact Or.inl (Question.purpose_of_mem asks)

namespace Rounds

/-- A run prepares nothing. -/
theorem purpose_ne_prepare_of_mem {run : Rounds} {call : Call} (made : call ∈ run.calls) :
    call.purpose ≠ .prepare := by
  intro prepares
  simp only [calls, Round.calls, List.mem_append, List.mem_flatMap] at made
  -- A call stands in a question, in a cycle or behind the last round.
  rcases made with ⟨round, _, asks | inside⟩ | closes
  · simp [Question.purpose_of_mem asks] at prepares
  · have purpose := Cycle.purpose_of_mem inside
    simp [prepares] at purpose
  · rcases Closing.purpose_of_mem closes with same | same <;> simp [same] at prepares

/-- The design and its memories are clocked in the cycles only. -/
theorem countP_calls {chosen : Call → Bool} (clocking : Clocking chosen) (run : Rounds) :
    run.calls.countP chosen =
      (run.rounds.map fun round => round.cycle.calls.countP chosen).sum := by
  -- The host is asked and reports, which clocks nothing, both behind the rounds and in them.
  have closes : run.closing.calls.countP chosen = 0 := by
    apply clocking.countP_eq_zero
    intro call made
    rcases Closing.purpose_of_mem made with purpose | purpose <;>
      simp [purpose]
  have cycles : ∀ round ∈ run.rounds,
      round.calls.countP chosen = round.cycle.calls.countP chosen := by
    intro round _
    have asks : (Question.calls { told := round.told, answer := false }).countP chosen = 0 := by
      apply clocking.countP_eq_zero
      intro call made
      simp [Question.purpose_of_mem made]
    rw [Round.calls, List.countP_append, asks, Nat.zero_add]
  rw [calls, List.countP_append, closes, Nat.add_zero, List.countP_flatMap]
  exact congrArg List.sum (List.map_congr_left cycles)

/-- Calls of which every cycle has one are as many as the rounds. -/
theorem countP_calls_of_one {chosen : Call → Bool} (clocking : Clocking chosen)
    (one : ∀ cycle : Cycle, cycle.calls.countP chosen = 1) (run : Rounds) :
    run.calls.countP chosen = run.rounds.length := by
  -- The count of a run is a sum over its rounds, and each contributes one.
  simp only [countP_calls clocking, one, List.map_const', List.sum_replicate_nat, Nat.mul_one]

end Rounds

namespace Bench

section Questions

variable {D H M : Type} [Host H]

/-- The question asked before a cycle, unless a fault or the budget settles it without the host. -/
def question? (bench : Bench D H M) : Option Question :=
  if bench.evaluationFault.isNone && bench.counter.cycles < bench.budget then
    some { told := bench.stopOutstanding, answer := bench.hostFinished.1 }
  else none

/-- A run goes on when the host was asked and has not finished. -/
theorem question?_of_going {bench : Bench D H M} (going : bench.mayContinue.1 = true) :
    bench.question? = some { told := bench.stopOutstanding, answer := false } := by
  unfold mayContinue at going
  unfold question?
  -- The same condition decides whether to ask and whether the answer counts.
  split
  · rename_i undecided
    rw [if_pos undecided] at going
    simp only [Bool.not_eq_true'] at going
    rw [going]
  · rename_i decided
    rw [if_neg decided] at going
    cases going

end Questions

section Run

variable {D H M : Type} [Design D] [Host H] [Memory M]

/-- An outstanding stop is forwarded by one call. -/
theorem makes_forwardStop (bench : Bench D H M) :
    Makes (if bench.stopOutstanding then [.stop] else [])
      bench (bench.withConnection bench.connection.forwardStop) := by
  cases outstanding : bench.stopOutstanding with
  | false =>
    -- A stop that was never requested, or was forwarded before, is none of the host's business.
    have alone : bench.connection.forwardStop = bench.connection := by
      unfold stopOutstanding at outstanding
      simp [Host.Connection.forwardStop, connection, outstanding]
    rw [alone]
    exact .none rfl rfl
  | true =>
    have told : bench.connection.forwardStop =
        { bench.connection with
          link := { bench.link with stopForwarded := true }
          host := Host.stop bench.host
          journal := (bench.journal.remark .stopForwarded).call .stop } := by
      unfold stopOutstanding at outstanding
      simp [Host.Connection.forwardStop, connection, outstanding]
    rw [told]
    exact .single rfl rfl

/-- The host is asked after an outstanding stop was forwarded to it. -/
theorem makes_hostFinished (bench : Bench D H M) :
    Makes (Question.calls { told := bench.stopOutstanding, answer := bench.hostFinished.1 })
      bench bench.hostFinished.2 := by
  let told := bench.withConnection bench.connection.forwardStop
  have asks : Makes [.finished (Host.finished told.host)]
      told (told.call (.finished (Host.finished told.host))) :=
    .single ⟨rfl, rfl⟩ rfl
  -- The host is told by a call of its own, and only then asked by another.
  exact bench.makes_forwardStop.append asks

/-- Whether a run may go on takes at most one question to the host. -/
theorem makes_asked (bench : Bench D H M) :
    Makes (bench.question?.toList.flatMap Question.calls) bench bench.asked := by
  unfold question? asked mayContinue
  -- A fault or the end of the budget is known without the host.
  split
  · simpa using bench.makes_hostFinished
  · exact .none rfl rfl

/-- Ending the trace and pushing out the notices makes no call. -/
theorem makes_flushes (bench : Bench D H M) :
    Makes [] bench bench.closeTrace.flushNotices := by
  -- Sinks are written on directly, and failures are remarked.
  obtain ⟨recorder, sinks, remarks, closed⟩ := bench.closeTrace_eq
  obtain ⟨sinks', remarks', flushed⟩ := bench.closeTrace.flushNotices_eq
  rw [flushed, closed]
  exact .none rfl rfl

/-- Finding out how a run ended takes the status of the host and at most one question to it. -/
theorem makes_findEnding (bench : Bench D H M) :
    ∃ status, ∃ question? : Option Question,
      Makes ([.status status] ++ question?.toList.flatMap Question.calls)
        bench bench.findEnding.2 := by
  let status := Host.status bench.host
  have reports : Makes [.status status] bench (bench.call (.status status)) :=
    .single ⟨rfl, rfl⟩ rfl
  refine ⟨status, ?_⟩
  unfold findEnding
  simp only
  -- The host is asked once more only if neither its status nor a fault tells how the run ended.
  split
  · exact ⟨none, reports⟩
  · split
    · exact ⟨none, reports⟩
    · -- Both answers leave the bench as it was asked.
      let reported := bench.call (.status status)
      have asks := reported.makes_hostFinished
      refine ⟨some { told := reported.stopOutstanding, answer := reported.hostFinished.1 }, ?_⟩
      have made := reports.append asks
      split
      · rename_i told answer
        have last : reported.hostFinished.2 = told := by rw [answer]
        simpa [last] using made
      · rename_i told answer
        have last : reported.hostFinished.2 = told := by rw [answer]
        simpa [last] using made

/-- Winding a run down makes the calls behind its last round, when a stop may be requested late. -/
theorem makes_finish (late : Bool) (bench : Bench D H M) :
    ∃ closing : Closing, Makes closing.calls bench (bench.asked.requestStopIf late).finish.2 := by
  let stopped := bench.asked.requestStopIf late
  have asks := bench.makes_asked
  have requests := bench.asked.makes_requestStopIf late
  have flushes := stopped.makes_flushes
  obtain ⟨status, ending?, ends⟩ := stopped.closeTrace.flushNotices.makes_findEnding
  have made := ((asks.append requests).append flushes).append ends
  refine ⟨⟨bench.question?, status, ending?⟩, ?_⟩
  rw [List.append_nil, List.append_nil] at made
  -- The remark about the end comes last, and is no call.
  simpa only [Closing.calls, List.append_assoc] using (⟨made.noted, made.performed⟩ :
    Makes _ bench stopped.finish.2)

/-- Rounds in whose cycles a run goes on, one after another, and covers all channels in each. -/
def GoesThrough (channels : Nat) (requests : Nat → Bool) (rounds : List Round)
    (bench : Bench D H M) : Prop :=
  ∀ (index : Nat) (round : Round), rounds[index]? = some round →
    round.cycle.Covers channels (requests index) (bench.after requests index).asked

/-- A bench goes on by a round: its question and its cycle, with a print and a dump when due. -/
structure GoesOnBy (channels : Nat) (requested : Bool) (bench : Bench D H M)
    (round : Round) : Prop where
  made : Makes round.calls bench (bench.asked.step requested)
  covers : round.cycle.Covers channels requested bench.asked
  printed : round.cycle.printed?.isSome = bench.asked.prints
  numbered : round.cycle.dumped?.map Prod.fst =
    numberFor bench.asked.recorder (bench.asked.countIn requested)

/-- A bench without a reason to stop goes on by some round. -/
theorem exists_goesOnBy {channels : Nat} {bench : Bench D H M} (wired : bench.Wired channels)
    (going : bench.mayContinue.1 = true) (requested : Bool) :
    ∃ round, bench.GoesOnBy channels requested round := by
  have asks := bench.makes_asked
  rw [question?_of_going going] at asks
  have still : bench.asked.Wired channels := wired.of_numbers (by rw [channels_asked])
  -- The cycle is run on the bench as the question has left it.
  obtain ⟨printed?, dumped?, due, numbered, steps⟩ := makes_step_due requested fun _ => still
  let settled := bench.asked.settledService requested
  refine ⟨⟨bench.stopOutstanding, { shown := bench.asked.shown, settled, printed?, dumped? }⟩,
    ?_, covers_of_wired still requested printed? dumped?, due, numbered⟩
  have made := asks.append steps
  -- There is exactly one question in front of the cycle, as the run goes on.
  rw [Option.toList_some, List.flatMap_singleton] at made
  exact made

/-- The rounds of a run, each of which goes on from the state that the others have left. -/
def Runs (channels : Nat) (requests : Nat → Bool) (rounds : List Round) (bench : Bench D H M) :
    Prop :=
  ∀ (index : Nat) (round : Round), rounds[index]? = some round →
    (bench.after requests index).GoesOnBy channels (requests index) round

/-- A run that lasts for some cycles has as many rounds. -/
theorem exists_runs {requests : Nat → Bool} {channels : Nat} {bench : Bench D H M}
    (wired : bench.Wired channels) {cycles : Nat} (lasts : bench.Lasts requests cycles) :
    ∃ rounds : List Round, rounds.length = cycles ∧ bench.Runs channels requests rounds := by
  -- The rounds do not depend on each other, since every one starts from a known state of the run.
  have each := fun index : Fin cycles =>
    exists_goesOnBy (wired.after requests index) (lasts index index.isLt) (requests index)
  obtain ⟨chosen, goesOn⟩ := Classical.skolem.mp each
  refine ⟨List.ofFn chosen, List.length_ofFn, ?_⟩
  intro index round position
  obtain ⟨within, same⟩ : ∃ within : index < cycles, chosen ⟨index, within⟩ = round := by
    simpa [List.getElem?_ofFn] using position
  exact same ▸ goesOn ⟨index, within⟩

/-- The first rounds of a run make all its calls up to some cycle. -/
theorem Runs.makes {channels : Nat} {requests : Nat → Bool} {rounds : List Round}
    {bench : Bench D H M} (runs : bench.Runs channels requests rounds) (index : Nat)
    (within : index ≤ rounds.length) :
    Makes ((rounds.take index).flatMap Round.calls) bench (bench.after requests index) := by
  -- One more cycle makes the calls of the next round behind those of the first ones.
  induction index with
  | zero => exact .none rfl rfl
  | succ index ih =>
    have position := List.getElem?_eq_getElem within
    have made := (ih (Nat.le_of_succ_le within)).append (runs index _ position).made
    rw [List.take_add_one, position, Option.toList_some, List.flatMap_append,
      List.flatMap_singleton]
    exact made

/-- All rounds of a run lead to the state after as many cycles. -/
theorem Runs.makes_all {channels : Nat} {requests : Nat → Bool} {rounds : List Round}
    {bench : Bench D H M} (runs : bench.Runs channels requests rounds) :
    Makes (rounds.flatMap Round.calls) bench (bench.after requests rounds.length) := by
  have made := runs.makes rounds.length (Nat.le_refl _)
  -- Taking as many rounds as there are takes all of them.
  rwa [List.take_length] at made

/-- The rounds of a run are the cycles it lasts for, each after a question to the host. -/
theorem makes_after {requests : Nat → Bool} {channels : Nat} {bench : Bench D H M}
    (wired : bench.Wired channels) (cycles : Nat) (lasts : bench.Lasts requests cycles) :
    ∃ rounds : List Round, rounds.length = cycles ∧
      Makes (rounds.flatMap Round.calls) bench (bench.after requests cycles) ∧
      bench.GoesThrough channels requests rounds := by
  obtain ⟨rounds, length, runs⟩ := exists_runs wired lasts
  refine ⟨rounds, length, length ▸ runs.makes_all, ?_⟩
  -- Each round covers its channels, which is what the rounds are said to go through.
  intro index round position
  exact (runs index round position).covers

/-- A run that returns has made the calls of its rounds and those behind them. -/
theorem makes_run {requests : Nat → Bool} {channels limit : Nat} {late : Bool}
    {bench final : Bench D H M} {summary : Summary} (wired : bench.Wired channels)
    (ran : bench.run? requests limit late = some (summary, final)) :
    ∃ run : Rounds, Makes run.calls bench final := by
  obtain ⟨cycles, -, ends, finished⟩ := run?_eq_some_iff.mp ran
  obtain ⟨rounds, -, cycled, -⟩ := makes_after wired cycles ends.1
  -- Behind the last round come the last question, the late stop and winding down.
  obtain ⟨closing, closed⟩ := makes_finish late (bench.after requests cycles)
  rw [finished] at closed
  exact ⟨⟨rounds, closing⟩, cycled.append closed⟩

/-- The calls of a run on a bench with some channels come in rounds, and the counts agree. -/
structure Orderly (channels : Nat) (requests : Nat → Bool) (bench final : Bench D H M)
    (run : Rounds) : Prop where
  /-- The calls of the rounds, and no others, lead from the first to the last state. -/
  made : Makes run.calls bench final
  ends : bench.EndsAfter requests run.rounds.length
  covers : bench.GoesThrough channels requests run.rounds
  /-- The design is settled and committed once per cycle. -/
  settles : run.calls.countP (fun call => call.purpose == .settle) = run.rounds.length
  commits : run.calls.countP (fun call => call.purpose == .commit) = run.rounds.length
  /-- The memory behind each channel is ticked once per cycle whose design settles. -/
  ticks : ∀ channel, run.calls.countP (Call.ticks channel) =
    if channel < channels then run.calls.countP Call.settlesWell else 0
  /-- The host is told to finish, and asked whether it has, between cycles only. -/
  between : ∀ round ∈ run.rounds, ∀ call ∈ round.cycle.calls, call.purpose ≠ .ask

/-- A cycle that covers the channels ticks the memory behind each of them if it settles well. -/
theorem countP_ticks_of_covers {channels : Nat} {requested : Bool} {bench : Bench D H M}
    {cycle : Cycle} (covers : cycle.Covers channels requested bench) (channel : Nat) :
    cycle.calls.countP (Call.ticks channel) =
      if channel < channels then cycle.calls.countP Call.settlesWell else 0 := by
  rw [Cycle.countP_ticks, Cycle.countP_settlesWell]
  cases settled : cycle.settled with
  | error fault => simp [servingCalls, Except.isOk, Except.toBool]
  | ok service =>
    -- Every number below the count of channels is served once, and no other number is.
    rw [servingCalls, Service.countP_ticks, covers.ticks service settled]
    simp [Except.isOk, Except.toBool, List.count_range]

/-- The rounds of a run that ends make all its calls but those behind the last round. -/
theorem orderly_of_rounds {requests : Nat → Bool} {channels : Nat} {bench final : Bench D H M}
    {run : Rounds} (made : Makes run.calls bench final)
    (ends : bench.EndsAfter requests run.rounds.length)
    (covers : bench.GoesThrough channels requests run.rounds) :
    Orderly channels requests bench final run := by
  constructor
  case made => exact made
  case ends => exact ends
  case covers => exact covers
  case settles =>
    exact run.countP_calls_of_one (clocking_of_purpose (by decide)) Cycle.countP_settle
  case commits =>
    exact run.countP_calls_of_one (clocking_of_purpose (by decide)) Cycle.countP_commit
  case ticks =>
    intro channel
    have each : ∀ round ∈ run.rounds, round.cycle.calls.countP (Call.ticks channel) =
        if channel < channels then round.cycle.calls.countP Call.settlesWell else 0 := by
      intro round member
      obtain ⟨index, position⟩ := List.mem_iff_getElem?.mp member
      exact countP_ticks_of_covers (covers index round position) channel
    rw [run.countP_calls (clocking_ticks channel), run.countP_calls clocking_settlesWell,
      List.map_congr_left each]
    -- A channel that is not there is never ticked.
    split
    · rfl
    · rw [List.map_const', List.sum_replicate_nat, Nat.mul_zero]
  case between =>
    intro round _ call inside
    exact Cycle.purpose_ne_ask_of_mem inside

/-- A run makes its calls in rounds, also as long as it goes on, and in order. -/
theorem orderly_of_run {settings : Settings} {design : D} {host : H} {memories : List M}
    {start bench : Bench D H M} (assembled : assemble settings design host memories = .ok start)
    (reached : start.Reached bench) (requests : Nat → Bool) :
    let channels := (Design.geometry design).channels
    (∀ cycles, bench.Lasts requests cycles →
      ∃ rounds : List Round, rounds.length = cycles ∧
        Makes (rounds.flatMap Round.calls) bench (bench.after requests cycles) ∧
        bench.GoesThrough channels requests rounds) ∧
    (∀ limit late summary final, bench.run? requests limit late = some (summary, final) →
      ∃ run : Rounds, run.rounds.length ≤ limit ∧
        Orderly channels requests bench final run) := by
  intro channels
  have wired := reached.wired (wired_of_assemble assembled)
  refine ⟨fun cycles lasts => makes_after wired cycles lasts, ?_⟩
  intro limit late summary final ran
  obtain ⟨cycles, within, ends, finished⟩ := run?_eq_some_iff.mp ran
  obtain ⟨rounds, length, cycled, covers⟩ := makes_after wired cycles ends.1
  -- The bench on which the run stopped is asked for the last time, and wound down.
  obtain ⟨closing, closed⟩ := makes_finish late (bench.after requests cycles)
  rw [finished] at closed
  subst length
  exact ⟨⟨rounds, closing⟩, within, orderly_of_rounds (cycled.append closed) ends covers⟩

/--
A run of three cycles on a bench with two channels, the last of which fails to settle.

The host clock has no edge in the second cycle, and all cycles are printed and traced.
-/
theorem orderly_of_staged_run :
    let design : StagedDesign := {
      channels := 2
      stages := [
        { shown := some 7, offers := [{ read := { valid := true, address := 0x102 } }] },
        { edge := false },
        { fault := some ⟨"assertion failed"⟩ }] }
    let start := stagedBench { verbose := true } design { answers := [some [1, 2], none] }
    let bench := { start with recorder := some { start := 0 }, sinks := {} }.reset.2
    ∃ summary final, bench.run? (· == 0) 3 = some (summary, final) ∧
      summary.cycles = 3 ∧
      ∃ run : Rounds, run.rounds.length ≤ 3 ∧ Orderly 2 (· == 0) bench final run := by
  intro design start bench
  have assembled : assemble { verbose := true } design { answers := [some [1, 2], none] }
      (stagedMemories design) = .ok start := assemble_staged ..
  have reached : start.Reached bench := (Reached.start.attach _ _).reset
  -- Three cycles: the second has no edge, and the third fails to settle.
  have cycles : (bench.run? (· == 0) 3).map (fun run => run.1.cycles) = some 3 := by
    decide +kernel
  obtain ⟨⟨summary, final⟩, ran, counted⟩ := Option.map_eq_some_iff.mp cycles
  have orderly := (orderly_of_run assembled reached (· == 0)).2 3 false summary final ran
  exact ⟨summary, final, ran, counted, orderly⟩

end Run

end Bench

end Testbench
