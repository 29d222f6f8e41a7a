import Testbench.Proofs.Host.Exchange

/-! No frame is lost or doubled on its way in: what is fetched is either accepted or pending. -/

namespace Testbench

/-- The frame that a call fetches, if the host is asked for one and has one. -/
def Call.fetched? : Call → Option UInt64
  | .receive size (some bytes) => some (Host.wordOfBytes size bytes)
  | _ => none

/-- The frames that calls fetch from the host, in order. -/
def fetchedFrames (calls : List Call) : List UInt64 :=
  calls.filterMap Call.fetched?

/-- Later calls fetch frames behind those of earlier calls. -/
theorem fetchedFrames_append (calls others : List Call) :
    fetchedFrames (calls ++ others) = fetchedFrames calls ++ fetchedFrames others :=
  -- Fetching is read from one call at a time.
  List.filterMap_append

namespace Host

/-- Frames are fetched by the receipt alone. -/
theorem Turn.fetchedFrames_calls (turn : Turn) :
    fetchedFrames turn.calls = fetchedFrames (receiptCalls turn.receipt?) := by
  -- Of the four parts of a turn only the first one asks the host for a frame.
  have sends : fetchedFrames (sendCalls turn.sent?) = [] := by
    unfold sendCalls
    cases turn.sent? <;> rfl
  have drives : fetchedFrames [.driveHostIn turn.valid turn.word] = [] := rfl
  have takes : fetchedFrames [.driveHostReady true] = [] := rfl
  simp only [Turn.calls, fetchedFrames_append, drives, sends, takes, List.append_nil]

/-- What is passed out does not matter to the frame on its way in. -/
theorem Link.pendingFrame?_afterTurn (turn : Turn) (link : Link) :
    (link.afterTurn turn).pendingFrame? =
      (link.countEdge.afterReceipt turn.receipt?).pendingFrame? := by
  -- Passing out is only counted.
  unfold afterTurn afterSending
  split <;> rfl

/-- Every turn is at an edge of the host clock, and is counted as such. -/
theorem Link.edges_afterTurn (turn : Turn) (link : Link) :
    (link.afterTurn turn).tally.edges = link.tally.edges + 1 := by
  -- A receipt leaves the count of edges alone, whatever the answer is.
  have received : ∀ receipt?,
      (link.countEdge.afterReceipt receipt?).tally.edges = link.tally.edges + 1
    | none => rfl
    | some (_, none) => rfl
    | some (_, some _) => rfl
  rw [← received turn.receipt?]
  unfold afterTurn afterSending
  split <;> rfl

/-- A turn counts the frames that it fetches. -/
theorem Link.received_afterTurn (turn : Turn) (link : Link) :
    (link.afterTurn turn).tally.received =
      link.tally.received + (fetchedFrames turn.calls).length := by
  -- Only an answer with a frame is counted, which is what the calls tell as well.
  have received : ∀ receipt?, (link.countEdge.afterReceipt receipt?).tally.received =
      link.tally.received + (fetchedFrames (receiptCalls receipt?)).length
    | none => rfl
    | some (_, none) => rfl
    | some (_, some _) => rfl
  rw [Turn.fetchedFrames_calls, ← received turn.receipt?]
  unfold afterTurn afterSending
  split <;> rfl

/-- A host that was asked leaves the frame that it gave, if any, on its way in. -/
theorem Link.pendingFrame?_afterAnswer (size : Nat) (answer : Option (List UInt8)) (link : Link) :
    (link.afterReceipt (some (size, answer))).pendingFrame?.toList =
      fetchedFrames (receiptCalls (some (size, answer))) := by
  -- A host without a frame clears what was on its way, and one with a frame replaces it.
  cases answer <;> rfl

namespace Connection

variable {P H : Type} [HostPins P] [Host H]

/-- The frame that the design accepts, which is the one on its way in when the design is ready. -/
def accepted? (connection : Connection P H) : Option UInt64 :=
  if HostPins.hostInReady connection.pins then connection.link.pendingFrame? else none

/-- A frame that was on its way in or is fetched is either accepted or on its way in afterwards. -/
theorem pending_append_fetched (connection : Connection P H) :
    connection.link.pendingFrame?.toList ++ fetchedFrames connection.turn.calls =
      connection.accepted?.toList ++
        (connection.link.afterTurn connection.turn).pendingFrame?.toList := by
  have receipt : connection.turn.receipt? = connection.receipt? := rfl
  rw [Turn.fetchedFrames_calls, Link.pendingFrame?_afterTurn, receipt]
  cases asks : connection.asks with
  | true =>
    have asked : connection.receipt? = some (connection.link.frameBytes,
        (Host.receive connection.link.frameBytes connection.host).1) := by
      simp [receipt?, asks]
    -- The host is asked only if no unaccepted frame is on its way.
    have accepted : connection.accepted? = connection.link.pendingFrame? := by
      unfold accepted?
      split
      · rfl
      · rename_i busy
        simp only [Connection.asks, busy, Bool.false_or, Bool.not_eq_true'] at asks
        simp [Link.pendingFrame?, asks]
    rw [asked, accepted, Link.pendingFrame?_afterAnswer]
  | false =>
    -- Nothing is accepted and nothing is fetched, so the same frame stays on its way.
    have unasked : connection.receipt? = none := by simp [receipt?, asks]
    have busy : HostPins.hostInReady connection.pins = false := by
      simp only [Connection.asks, Bool.or_eq_false_iff] at asks
      exact asks.1
    have accepted : connection.accepted? = none := by simp [accepted?, busy]
    rw [unasked, accepted, Option.toList_none, List.nil_append]
    exact List.append_nil _

/-- A frame that is not accepted is driven once more, and the host is not asked for another. -/
theorem turn_of_held {connection : Connection P H} {word : UInt64}
    (pending : connection.link.pendingFrame? = some word)
    (busy : HostPins.hostInReady connection.pins = false) :
    connection.turn.receipt? = none ∧ connection.turn.valid = true ∧
      connection.turn.word = word := by
  obtain ⟨marked, same⟩ : connection.link.pending = true ∧ connection.link.word = word := by
    unfold Link.pendingFrame? at pending
    split at pending
    · rename_i marked
      exact ⟨marked, Option.some.inj pending⟩
    · cases pending
  -- The frame that is pending keeps the link from asking for another.
  have unasked : connection.receipt? = none := by
    simp [receipt?, asks, busy, marked]
  refine ⟨unasked, ?_, ?_⟩
  · simp [turn, unasked, Link.afterReceipt, Link.countEdge, marked]
  · simp [turn, unasked, Link.afterReceipt, Link.countEdge, same]

/-- What a turn drives in is the frame that is then on its way. -/
theorem frame?_turn (connection : Connection P H) :
    (if connection.turn.valid then some connection.turn.word else none) =
      (connection.link.afterTurn connection.turn).pendingFrame? := by
  -- The link is filled before anything is driven, so the drive shows the new frame at once.
  rw [Link.pendingFrame?_afterTurn]
  rfl

end Connection

end Host

end Testbench
