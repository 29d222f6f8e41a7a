import Testbench.Host.Link

/-! What passes over a link at an edge of the host clock, and what the link makes of it. -/

namespace Testbench.Host

/-- What passes over a link at one edge of the host clock. -/
structure Turn where
  /-- The size of the frame asked for and the answer, if the host is asked for a frame. -/
  receipt? : Option (Nat × Option (List UInt8))
  /-- A frame is driven in. -/
  valid : Bool
  word : UInt64
  /-- The bytes passed to the host, if the design shows a frame. -/
  sent? : Option (List UInt8)

/-- The call for a frame, if the host is asked for one. -/
def receiptCalls (receipt? : Option (Nat × Option (List UInt8))) : List Call :=
  receipt?.toList.map fun (size, answer) => .receive size answer

/-- The call with a frame, if the host is passed one. -/
def sendCalls (sent? : Option (List UInt8)) : List Call :=
  sent?.toList.map .send

/-- The calls at an edge: at most one for a frame, a drive, at most one with a frame, a drive. -/
def Turn.calls (turn : Turn) : List Call :=
  receiptCalls turn.receipt? ++ [.driveHostIn turn.valid turn.word] ++
    sendCalls turn.sent? ++ [.driveHostReady true]

/-- The link once the host was asked for a frame, or was not. -/
def Link.afterReceipt (receipt? : Option (Nat × Option (List UInt8))) (link : Link) : Link :=
  match receipt? with
  | none => link
  | some (_, none) => link.clear
  | some (size, some bytes) => link.load (wordOfBytes size bytes)

/-- The link once a frame was passed out, or was not. -/
def Link.afterSending (sent? : Option (List UInt8)) (link : Link) : Link :=
  if sent?.isSome then link.countSent else link

/-- The link after an edge. -/
def Link.afterTurn (turn : Turn) (link : Link) : Link :=
  (link.countEdge.afterReceipt turn.receipt?).afterSending turn.sent?

variable {P H : Type} [HostPins P] [Host H]

/-- The host once it was passed a frame, or was not. -/
def hostAfterSending (sent? : Option (List UInt8)) (host : H) : H :=
  match sent? with
  | none => host
  | some bytes => Host.send bytes host

namespace Connection

/-- The host is asked for a frame when the design takes the one shown to it, or none is shown. -/
def asks (connection : Connection P H) : Bool :=
  HostPins.hostInReady connection.pins || !connection.link.pending

/-- The size of the frame asked for and the answer, if the host is asked for a frame. -/
def receipt? (connection : Connection P H) : Option (Nat × Option (List UInt8)) :=
  let size := connection.link.frameBytes
  if connection.asks then some (size, (Host.receive size connection.host).1) else none

/-- The host once it was asked for a frame, if it is. -/
def hostAfterReceipt (connection : Connection P H) : H :=
  if connection.asks then (Host.receive connection.link.frameBytes connection.host).2
  else connection.host

/-- The bytes passed to the host, if the design shows a frame. -/
def sent? (connection : Connection P H) : Option (List UInt8) :=
  (HostPins.hostOut connection.pins).map (bytesOfWord connection.link.frameBytes)

/-- What passes over a connection when the host clock has an edge. -/
def turn (connection : Connection P H) : Turn :=
  let filled := connection.link.countEdge.afterReceipt connection.receipt?
  { receipt? := connection.receipt?
    valid := filled.pending
    word := filled.word
    -- The design shows its frame once the inbound pins are driven.
    sent? := { connection with link := filled : Connection P H }.driveIn.sent? }

/-- Filling the link asks the host for a frame, or leaves everything as it is. -/
theorem refill_eq (connection : Connection P H) :
    ∃ remarks, connection.refill =
      { connection with
        link := connection.link.afterReceipt connection.receipt?
        host := connection.hostAfterReceipt
        journal := { connection.journal.callAll (receiptCalls connection.receipt?) with
          remarks } } := by
  cases asks : connection.asks with
  | false =>
    -- A frame that is still on its way keeps the link as it is.
    have held : connection.refill = connection := by
      unfold refill
      rw [Connection.asks] at asks
      simp [asks]
    refine ⟨connection.journal.remarks, ?_⟩
    simp [held, receipt?, hostAfterReceipt, asks, Link.afterReceipt, receiptCalls, Journal.callAll]
  | true =>
    have fetched : connection.refill = connection.fetch := by
      unfold refill
      rw [Connection.asks] at asks
      simp [asks]
    -- The answer decides whether a frame is loaded, with a remark, or the link is cleared.
    simp only [fetched, fetch, receipt?, hostAfterReceipt, asks, if_true]
    cases (Host.receive connection.link.frameBytes connection.host).1 with
    | none => exact ⟨connection.journal.remarks, rfl⟩
    | some bytes => exact ⟨_, rfl⟩

/-- Passing out hands a shown frame to the host, or leaves everything as it is. -/
theorem passOut_eq (connection : Connection P H) :
    ∃ remarks, connection.passOut =
      { connection with
        link := connection.link.afterSending connection.sent?
        host := hostAfterSending connection.sent? connection.host
        journal := { connection.journal.callAll (sendCalls connection.sent?) with remarks } } := by
  unfold passOut sent?
  -- A frame that is shown is sent, counted and remarked, and the host cannot refuse it.
  cases HostPins.hostOut connection.pins with
  | none => exact ⟨connection.journal.remarks, rfl⟩
  | some word => exact ⟨_, rfl⟩

/-- Without an edge of the host clock nothing happens. -/
theorem exchange_of_idle (connection : Connection P H)
    (idle : HostPins.hostEdge connection.pins = false) : connection.exchange = connection := by
  -- The clock is asked first, before any pin is read or driven.
  simp [exchange, idle]

/-- At an edge of the host clock all that happens is what passes over the link. -/
theorem exchange_of_edge (connection : Connection P H)
    (edge : HostPins.hostEdge connection.pins = true) :
    ∃ remarks, connection.exchange =
      { link := connection.link.afterTurn connection.turn
        pins := HostPins.driveHostReady true
          (HostPins.driveHostIn connection.turn.valid connection.turn.word connection.pins)
        host := hostAfterSending connection.turn.sent? connection.hostAfterReceipt
        journal := { connection.journal.callAll connection.turn.calls with remarks } } := by
  have opened : connection.exchange =
      connection.countEdge.refill.driveIn.passOut.driveReady := by simp [exchange, edge]
  -- Counting the edge is nothing that the other parts look at.
  obtain ⟨filledRemarks, filled⟩ := connection.countEdge.refill_eq
  obtain ⟨remarks, passed⟩ := connection.countEdge.refill.driveIn.passOut_eq
  refine ⟨remarks, ?_⟩
  -- Passing out comes after the drive, so its pins are already those with the frame driven in.
  rw [opened, passed, filled]
  simp only [driveReady, driveIn, Journal.call, Journal.callAll, mk.injEq, Journal.mk.injEq]
  refine ⟨rfl, rfl, rfl, ?_, trivial⟩
  -- The journal holds the latest call first.
  show .driveHostReady true :: ((sendCalls connection.turn.sent?).reverse ++
      .driveHostIn connection.turn.valid connection.turn.word ::
        ((receiptCalls connection.turn.receipt?).reverse ++ connection.journal.calls)) = _
  simp [Turn.calls]

/-- What passes over a link has happened to the design and to the host at its ends. -/
structure Happens (turn : Turn) (before after : Connection P H) : Prop where
  /-- The frame is driven in, or marked as none, and the design is shown that its own are taken. -/
  pins : after.pins =
    HostPins.driveHostReady true (HostPins.driveHostIn turn.valid turn.word before.pins)
  /-- A host that is asked gives the answer and goes on, and one that is not asked stays. -/
  host : ∃ answered : H,
    (match turn.receipt? with
      | none => answered = before.host
      | some (size, answer) => Host.receive size before.host = (answer, answered)) ∧
    -- What the design shows is sent to the host after that.
    after.host =
      match turn.sent? with
      | none => answered
      | some bytes => Host.send bytes answered

/-- At an edge of the host clock, all that passes over the link happens to its ends. -/
theorem happens_of_edge (connection : Connection P H)
    (edge : HostPins.hostEdge connection.pins = true) :
    Happens connection.turn connection connection.exchange := by
  obtain ⟨remarks, passed⟩ := connection.exchange_of_edge edge
  rw [passed]
  constructor
  case pins => rfl
  case host =>
    refine ⟨connection.hostAfterReceipt, ?_, rfl⟩
    -- The answer in the turn is the one that the host gives in its state before.
    show match connection.receipt? with
      | none => connection.hostAfterReceipt = connection.host
      | some (size, answer) =>
        Host.receive size connection.host = (answer, connection.hostAfterReceipt)
    cases asks : connection.asks <;> simp [receipt?, hostAfterReceipt, asks]

end Connection

end Testbench.Host
