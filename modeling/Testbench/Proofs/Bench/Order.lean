import Testbench.Proofs.Bench.Turns

/-! A run asks its collaborators in a strict order, cycle by cycle. -/

namespace Testbench

/-- What a call is for. -/
inductive Purpose where
  | prepare
  | show
  | settle
  | tick
  /-- A frame is exchanged between the design and the host. -/
  | exchange
  | print
  | dump
  | commit
  /-- The host is told to finish, or asked whether it has. -/
  | ask
  | report
  deriving DecidableEq

/-- The purpose of a call. -/
def Call.purpose : Call → Purpose
  | .initialise _ => .prepare
  | .driveChannel .. => .show
  | .settle .. => .settle
  | .commit _ => .commit
  | .tick .. => .tick
  | .receive .. | .driveHostIn .. | .send _ | .driveHostReady _ => .exchange
  | .print _ => .print
  | .dump .. => .dump
  | .stop | .finished _ => .ask
  | .status _ => .report

/-- A call settles the design out of reset, and finds no inconsistency. -/
def Call.settlesWell : Call → Bool
  | .settle false none => true
  | _ => false

/-- A call ticks the memory behind a channel. -/
def Call.ticks (channel : Nat) : Call → Bool
  | .tick number _ => number == channel
  | _ => false

/-- Only calls that settle, tick or commit are chosen. -/
def Clocking (chosen : Call → Bool) : Prop :=
  ∀ call : Call, chosen call = true → call.purpose ∈ [.settle, .tick, .commit]

/-- Calls with other purposes are not chosen. -/
theorem Clocking.countP_eq_zero {chosen : Call → Bool} (clocking : Clocking chosen)
    {calls : List Call} (others : ∀ call ∈ calls, call.purpose ∉ [.settle, .tick, .commit]) :
    calls.countP chosen = 0 := by
  rw [List.countP_eq_zero]
  -- A chosen call would clock something, and none of these does.
  intro call made choice
  exact others call made (clocking call choice)

/-- Calls made of several items for one other purpose are not chosen. -/
theorem Clocking.countP_map_eq_zero {chosen : Call → Bool} (clocking : Clocking chosen)
    {α : Type} {make : α → Call} (others : ∀ item, (make item).purpose ∉ [.settle, .tick, .commit])
    (items : List α) : (items.map make).countP chosen = 0 :=
  -- The items do not matter: the purpose of the call alone rules it out.
  clocking.countP_eq_zero (List.forall_mem_map.mpr fun item _ => others item)

/-- Calls are chosen by a purpose that clocks something. -/
theorem clocking_of_purpose {purpose : Purpose} (clocks : purpose ∈ [.settle, .tick, .commit]) :
    Clocking fun call => call.purpose == purpose := by
  intro call choice
  -- The choice fixes the purpose of the call.
  rw [beq_iff_eq.mp choice]
  exact clocks

/-- Calls are chosen that settle the design well. -/
theorem clocking_settlesWell : Clocking Call.settlesWell := by
  intro call choice
  -- The choice is false for all calls but those that settle.
  cases call <;> first | cases choice | simp [Call.purpose]

/-- Calls are chosen that tick the memory behind a channel. -/
theorem clocking_ticks (channel : Nat) : Clocking (Call.ticks channel) := by
  intro call choice
  -- The choice is false for all calls but ticks.
  cases call <;> first | cases choice | simp [Call.purpose]

/-- All calls at an edge of the host clock exchange frames. -/
theorem Host.Turn.purpose_of_mem {turn : Turn} {call : Call} (made : call ∈ turn.calls) :
    call.purpose = .exchange := by
  obtain ⟨receipt?, valid, word, sent?⟩ := turn
  simp only [calls, receiptCalls, sendCalls, List.append_assoc, List.mem_append, List.mem_map,
    List.mem_singleton, Option.mem_toList] at made
  -- Asking, driving in, passing out and driving the readiness make up an exchange.
  rcases made with ⟨_, _, rfl⟩ | rfl | ⟨_, _, rfl⟩ | rfl <;> rfl

/-- Every call of a service ticks a memory or exchanges frames. -/
theorem Service.purpose_of_mem {service : Service} {call : Call} (made : call ∈ service.calls) :
    call.purpose = .tick ∨ call.purpose = .exchange := by
  simp only [calls, List.mem_append, List.mem_map, List.mem_flatMap] at made
  -- The calls of a service are its ticks followed by those of its turn.
  rcases made with ⟨_, _, rfl⟩ | ⟨turn, _, passed⟩
  · exact Or.inl rfl
  · exact Or.inr (Host.Turn.purpose_of_mem passed)

/-- A service ticks the channels to which it passes offers. -/
theorem Service.countP_ticks (channel : Nat) (service : Service) :
    service.calls.countP (Call.ticks channel) = (service.offers.map Prod.fst).count channel := by
  have frames : (service.turn?.toList.flatMap Host.Turn.calls).countP (Call.ticks channel) = 0 := by
    apply (clocking_ticks channel).countP_eq_zero
    intro call made
    obtain ⟨turn, _, passed⟩ := List.mem_flatMap.mp made
    rw [Host.Turn.purpose_of_mem passed]
    decide
  -- What is left are the offers, and each of them is one tick of its channel.
  rw [calls, List.countP_append, frames, Nat.add_zero, List.countP_map, List.count,
    List.countP_map]
  rfl

/-- A design that fails to settle is not served, and otherwise all calls are of its service. -/
theorem purpose_of_mem_servingCalls {settled : Except EvaluationFault Service} {call : Call}
    (made : call ∈ servingCalls settled) : call.purpose = .tick ∨ call.purpose = .exchange := by
  cases settled with
  -- Nothing is served after an inconsistency.
  | error fault => cases made
  | ok service => exact Service.purpose_of_mem made

/-- Nothing in a service settles or commits the design. -/
theorem countP_servingCalls {chosen : Call → Bool}
    (phases : ∀ call : Call, chosen call = true →
      call.purpose = .settle ∨ call.purpose = .commit)
    (settled : Except EvaluationFault Service) : (servingCalls settled).countP chosen = 0 := by
  rw [List.countP_eq_zero]
  intro call made choice
  have purpose := purpose_of_mem_servingCalls made
  -- Ticking and exchanging are neither of the two purposes that are counted.
  rcases phases call choice with same | same <;> simp [same] at purpose

namespace Cycle

/-- In a cycle nothing is prepared, and the host is neither asked how it is nor told to finish. -/
theorem purpose_of_mem {cycle : Cycle} {call : Call} (made : call ∈ cycle.calls) :
    call.purpose ∉ [.prepare, .ask, .report] := by
  obtain ⟨shown, settled, printed?, dumped?⟩ := cycle
  simp only [calls, List.mem_append, List.mem_map, List.mem_singleton] at made
  -- Only the service is a list of calls in turn, and all others tell their purpose at once.
  rcases made with ((((⟨_, _, rfl⟩ | rfl) | served) | ⟨_, _, rfl⟩) | ⟨_, _, rfl⟩) | rfl
  · simp [Call.purpose]
  · cases settled <;> simp [settleCall, Call.purpose]
  · rcases purpose_of_mem_servingCalls served with same | same <;> simp [same]
  · simp [Call.purpose]
  · simp [Call.purpose]
  · simp [Call.purpose]

/-- In a cycle the host is neither told to finish nor asked whether it has. -/
theorem purpose_ne_ask_of_mem {cycle : Cycle} {call : Call} (made : call ∈ cycle.calls) :
    call.purpose ≠ .ask := by
  intro asks
  -- Asking is not among the purposes that a cycle has calls for.
  have purpose := purpose_of_mem made
  simp [asks] at purpose

/-- The calls that clock the design and its memories do not show, print or dump anything. -/
theorem countP_calls {chosen : Call → Bool} (clocking : Clocking chosen) (cycle : Cycle) :
    cycle.calls.countP chosen =
      [settleCall cycle.settled].countP chosen + (servingCalls cycle.settled).countP chosen +
        [Call.commit false].countP chosen := by
  simp only [calls, List.countP_append]
  -- The shown state, the print and the dump drop out of the five parts of a cycle.
  rw [clocking.countP_map_eq_zero (by simp [Call.purpose]),
    clocking.countP_map_eq_zero (by simp [Call.purpose]),
    clocking.countP_map_eq_zero (by simp [Call.purpose])]
  simp only [Nat.zero_add, Nat.add_zero]

/-- Every cycle settles the design once. -/
theorem countP_settle (cycle : Cycle) :
    cycle.calls.countP (fun call => call.purpose == .settle) = 1 := by
  rw [countP_calls (clocking_of_purpose (by decide)), countP_servingCalls (by simp +contextual)]
  -- The call to settle is there whether it finds an inconsistency or not.
  cases cycle.settled <;> rfl

/-- Every cycle commits the design once. -/
theorem countP_commit (cycle : Cycle) :
    cycle.calls.countP (fun call => call.purpose == .commit) = 1 := by
  rw [countP_calls (clocking_of_purpose (by decide)), countP_servingCalls (by simp +contextual)]
  -- A cycle is finished by its commit even when its design fails to settle.
  cases cycle.settled <;> rfl

/-- A cycle settles the design well exactly when it serves the design. -/
theorem countP_settlesWell (cycle : Cycle) :
    cycle.calls.countP Call.settlesWell = if cycle.settled.isOk then 1 else 0 := by
  have phases : ∀ call : Call, call.settlesWell = true →
      call.purpose = .settle ∨ call.purpose = .commit := by
    intro call settles
    cases call <;> first | cases settles | simp [Call.purpose]
  rw [countP_calls clocking_settlesWell, countP_servingCalls phases]
  -- The call to settle carries the inconsistency for which the design is not served.
  cases cycle.settled <;> rfl

/-- A cycle ticks the memories of the channels that it serves. -/
theorem countP_ticks (channel : Nat) (cycle : Cycle) :
    cycle.calls.countP (Call.ticks channel) =
      (servingCalls cycle.settled).countP (Call.ticks channel) := by
  rw [countP_calls (clocking_ticks channel)]
  -- Settling and committing are no ticks, however the design settled.
  cases cycle.settled <;> simp [settleCall, Call.ticks]

end Cycle

end Testbench
