import Testbench.Design.Basic
import Testbench.Proofs.Host.Exchange

/-! Designs that show their host the head of a queue, and take it off when it is passed out. -/

namespace Testbench

/-- The frames that a design has for its host. -/
structure Host.Outbox where
  queue : List UInt64 := []
  /-- The design was shown that its frames are taken. -/
  ready : Bool := false
  deriving DecidableEq

/-- The head leaves the queue at an edge of the host clock, when frames are taken. -/
def Host.Outbox.afterCommit (edge : Bool) (outbox : Host.Outbox) : Host.Outbox :=
  if edge && outbox.ready then { outbox with queue := outbox.queue.tail } else outbox

/-- A design that shows the head of a queue, and changes the queue at commits only. -/
structure QueuedOutput (D : Type) [Design D] where
  outbox : D → Host.Outbox
  /-- A frame is shown exactly when there is one. -/
  hostOut : ∀ design, HostPins.hostOut design = (outbox design).queue.head?
  driveHostIn : ∀ valid word design,
    outbox (HostPins.driveHostIn valid word design) = outbox design
  driveHostReady : ∀ ready design,
    outbox (HostPins.driveHostReady ready design) = { outbox design with ready }
  driveChannel : ∀ channel presented design,
    outbox (Design.driveChannel channel presented design) = outbox design
  settle : ∀ reset design, outbox (Design.settle reset design).2 = outbox design
  dump : ∀ cycle design sink, outbox (Design.dump cycle design sink).2.1 = outbox design
  commit : ∀ design, outbox (Design.commit false design) =
    (outbox design).afterCommit (HostPins.hostEdge design)
  /-- In reset, the queue has to stay only as long as no frames are taken. -/
  commitReset : ∀ design, (outbox design).ready = false →
    outbox (Design.commit true design) = outbox design
  /-- Once a cycle has settled, the edge of the host clock does not depend on what is driven. -/
  edgeDriveIn : ∀ valid word (design : D),
    HostPins.hostEdge (HostPins.driveHostIn valid word design) = HostPins.hostEdge design
  edgeDriveReady : ∀ ready (design : D),
    HostPins.hostEdge (HostPins.driveHostReady ready design) = HostPins.hostEdge design
  edgeDump : ∀ cycle (design : D) sink,
    HostPins.hostEdge (Design.dump cycle design sink).2.1 = HostPins.hostEdge design

/-- The bytes that a call passes to the host, if it passes a frame. -/
def Call.sent? : Call → Option (List UInt8)
  | .send bytes => some bytes
  | _ => none

/-- The frames that calls pass to the host, in order. -/
def sentFrames (calls : List Call) : List (List UInt8) :=
  calls.filterMap Call.sent?

/-- Later calls pass frames behind those of earlier calls. -/
theorem sentFrames_append (calls others : List Call) :
    sentFrames (calls ++ others) = sentFrames calls ++ sentFrames others :=
  -- Passing is read from one call at a time.
  List.filterMap_append

namespace Host

/-- A turn passes at most one frame. -/
theorem Turn.sentFrames_calls (turn : Turn) : sentFrames turn.calls = turn.sent?.toList := by
  obtain ⟨receipt?, valid, word, sent?⟩ := turn
  -- A receipt and the drives pass nothing out.
  cases receipt? <;> cases sent? <;> rfl

/-- A turn counts the frame that it passes. -/
theorem Link.sent_afterTurn (turn : Turn) (link : Link) :
    (link.afterTurn turn).tally.sent = link.tally.sent + (sentFrames turn.calls).length := by
  -- The edge and the receipt count other things, so the sending alone is left.
  have received : ∀ receipt?,
      (link.countEdge.afterReceipt receipt?).tally.sent = link.tally.sent
    | none => rfl
    | some (_, none) => rfl
    | some (_, some _) => rfl
  rw [Turn.sentFrames_calls, ← received turn.receipt?]
  unfold afterTurn afterSending
  cases turn.sent? <;> rfl

/-- The width of the frames is settled once and for all. -/
theorem Link.frameBytes_afterReceipt (receipt? : Option (Nat × Option (List UInt8)))
    (link : Link) : (link.afterReceipt receipt?).frameBytes = link.frameBytes :=
  -- A receipt replaces the frame and the counts at most.
  match receipt? with
  | none => rfl
  | some (_, none) => rfl
  | some (_, some _) => rfl

/-- A turn leaves the width of the frames alone. -/
theorem Link.frameBytes_afterTurn (turn : Turn) (link : Link) :
    (link.afterTurn turn).frameBytes = link.frameBytes := by
  -- The frame that is sent is counted, in another field of the link.
  have received : (link.countEdge.afterReceipt turn.receipt?).frameBytes = link.frameBytes :=
    Link.frameBytes_afterReceipt turn.receipt? link.countEdge
  unfold afterTurn afterSending
  split <;> exact received

/-- A turn passes the head of the queue, reduced to the width of a frame. -/
theorem Connection.sent?_turn {D H : Type} [Design D] [Host H] (queued : QueuedOutput D)
    (connection : Connection D H) :
    connection.turn.sent? =
      (queued.outbox connection.pins).queue.head?.map
        (bytesOfWord connection.link.frameBytes) := by
  -- The frame driven in before changes neither the queue nor the width.
  let filled := connection.link.countEdge.afterReceipt connection.receipt?
  have width : filled.frameBytes = connection.link.frameBytes :=
    Link.frameBytes_afterReceipt connection.receipt? connection.link.countEdge
  have opened : connection.turn.sent? =
      (HostPins.hostOut (HostPins.driveHostIn filled.pending filled.word connection.pins)).map
        (bytesOfWord filled.frameBytes) := rfl
  rw [opened, width, queued.hostOut, queued.driveHostIn]

end Host

end Testbench
