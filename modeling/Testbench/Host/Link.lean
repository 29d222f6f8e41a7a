import Testbench.Host.Basic
import Testbench.Host.Frame
import Testbench.Output.Journal

/-! The link that carries frames between a design and its host. -/

namespace Testbench.Host

/--
What went over a link so far.

The counts are exact numbers, and equal to counters of 64 bits below `2 ^ 64` events.
-/
structure Tally where
  /-- The cycles in which the host clock had an edge. -/
  edges : Nat := 0
  /-- The frames fetched from the host. -/
  received : Nat := 0
  /-- The frames passed to the host. -/
  sent : Nat := 0
  deriving DecidableEq, Inhabited

/-- A link holds at most one frame on its way in, and passes frames out at once. -/
structure Link where
  frameBytes : Nat
  /-- A frame is on its way in. -/
  pending : Bool := false
  /-- The frame fetched last, which stays on the wires after it was accepted. -/
  word : UInt64 := 0
  stopRequested : Bool := false
  /-- The host was told to finish, which happens once. -/
  stopForwarded : Bool := false
  tally : Tally := {}
  deriving DecidableEq, Inhabited

/-- A fresh link for frames of the given width. -/
def Link.ofWidth (bits : UInt32) : Except SetupFault Link :=
  (Host.frameBytes bits).map fun size => { frameBytes := size }

/-- A fresh link knows the size of its frames, and nothing else. -/
theorem Link.eq_of_ofWidth {bits : UInt32} {link : Link} (fresh : ofWidth bits = .ok link) :
    ∃ size, Host.frameBytes bits = .ok size ∧ link = { frameBytes := size } := by
  -- A width that no frame can have is refused, and then there is no link.
  unfold ofWidth at fresh
  cases sized : Host.frameBytes bits with
  | error fault => simp [sized, Except.map] at fresh
  | ok size =>
    simp only [sized, Except.map, Except.ok.injEq] at fresh
    exact ⟨size, rfl, fresh.symm⟩

/-- The frame on its way in, if there is one. -/
def Link.pendingFrame? (link : Link) : Option UInt64 :=
  if link.pending then some link.word else none

/-- Asks for the run to wind down at the next cycle boundary. -/
def Link.requestStop (link : Link) : Link :=
  { link with stopRequested := true }

/-- The host clock had another edge. -/
def Link.countEdge (link : Link) : Link :=
  { link with tally := { link.tally with edges := link.tally.edges + 1 } }

/-- The host had no frame, so none is on its way. -/
def Link.clear (link : Link) : Link :=
  -- The old frame stays on the wires, where nothing marks it as valid.
  { link with pending := false }

/-- The host had a frame, which is now on its way in. -/
def Link.load (word : UInt64) (link : Link) : Link :=
  { link with
    pending := true
    word
    tally := { link.tally with received := link.tally.received + 1 } }

/-- A frame was passed to the host. -/
def Link.countSent (link : Link) : Link :=
  { link with tally := { link.tally with sent := link.tally.sent + 1 } }

/-- A link between the pins of a design and a host, with the journal of what passes over it. -/
structure Connection (P H : Type) where
  link : Link
  pins : P
  host : H
  journal : Journal := {}

variable {P H : Type} [HostPins P] [Host H]

/-- Drives both handshakes idle, as a design in reset needs it. -/
def driveIdle (pins : P) : P :=
  HostPins.driveHostReady false (HostPins.driveHostIn false 0 pins)

/-- The calls that drive both handshakes idle. -/
def idleCalls : List Call :=
  [.driveHostIn false 0, .driveHostReady false]

/-- Asks the host for the next frame. -/
def Connection.fetch (connection : Connection P H) : Connection P H :=
  let size := connection.link.frameBytes
  let (answer, host) := Host.receive size connection.host
  let journal := connection.journal.call (.receive size answer)
  match answer with
  | none => { connection with link := connection.link.clear, host, journal }
  | some bytes =>
    let word := wordOfBytes size bytes
    { connection with
      link := connection.link.load word
      host
      journal := journal.remark (.frameReceived word) }

/--
Fetches only when the design accepted the frame shown to it or none is shown.

So no frame is dropped, and none is fetched twice.
-/
def Connection.refill (connection : Connection P H) : Connection P H :=
  if HostPins.hostInReady connection.pins || !connection.link.pending then connection.fetch
  else connection

/-- Drives the frame on its way in. -/
def Connection.driveIn (connection : Connection P H) : Connection P H :=
  let link := connection.link
  { connection with
    pins := HostPins.driveHostIn link.pending link.word connection.pins
    journal := connection.journal.call (.driveHostIn link.pending link.word) }

/-- Passes the frame shown by the design to the host, which always takes it. -/
def Connection.passOut (connection : Connection P H) : Connection P H :=
  match HostPins.hostOut connection.pins with
  | none => connection
  | some word =>
    let bytes := bytesOfWord connection.link.frameBytes word
    { connection with
      link := connection.link.countSent
      host := Host.send bytes connection.host
      journal := (connection.journal.remark (.frameSent word)).call (.send bytes) }

/-- Shows the design that its frames are taken. -/
def Connection.driveReady (connection : Connection P H) : Connection P H :=
  { connection with
    pins := HostPins.driveHostReady true connection.pins
    journal := connection.journal.call (.driveHostReady true) }

/-- Counts an edge of the host clock. -/
def Connection.countEdge (connection : Connection P H) : Connection P H :=
  { connection with link := connection.link.countEdge }

/-- One cycle of the link, in which nothing happens without an edge of the host clock. -/
def Connection.exchange (connection : Connection P H) : Connection P H :=
  if HostPins.hostEdge connection.pins then
    -- The design shows its frame with the inbound pins already driven.
    connection.countEdge.refill.driveIn.passOut.driveReady
  else connection

/-- Forwards a requested stop to the host, once. -/
def Connection.forwardStop (connection : Connection P H) : Connection P H :=
  let link := connection.link
  if link.stopRequested && !link.stopForwarded then
    { connection with
      link := { link with stopForwarded := true }
      host := Host.stop connection.host
      journal := (connection.journal.remark .stopForwarded).call .stop }
  else connection

/-- Forwards a requested stop, then asks the host whether it has finished. -/
def Connection.finished (connection : Connection P H) : Bool × Connection P H :=
  let told := connection.forwardStop
  let answer := Host.finished told.host
  (answer, { told with journal := told.journal.call (.finished answer) })

end Testbench.Host
