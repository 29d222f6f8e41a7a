import Testbench.Proofs.Bench.Staged
import Testbench.Proofs.Host.Bytes
import Testbench.Proofs.Host.Frames
import Testbench.Proofs.Host.Outbox

/-! Frames survive the trip between bytes and words in everything that happens to a link. -/

namespace Testbench.Host

/-- What may happen to a link. -/
inductive Event (P H : Type) where
  /-- Frames are exchanged between the ends of the link, in whichever states these are. -/
  | exchange (pins : P) (host : H)
  /-- A stop is requested. -/
  | requestStop
  /-- The host is told of a requested stop, and asked whether it has finished. -/
  | finished (pins : P) (host : H)

variable {P H : Type} [HostPins P] [Host H]

namespace Event

/-- The link once an event has happened. -/
def after (link : Link) : Event P H → Link
  | .exchange pins host => ({ link, pins, host } : Connection P H).exchange.link
  | .requestStop => link.requestStop
  | .finished pins host => ({ link, pins, host } : Connection P H).finished.2.link

/-- The calls made in an event. -/
def calls (link : Link) : Event P H → List Call
  | .exchange pins host => ({ link, pins, host } : Connection P H).exchange.journal.callsInOrder
  | .requestStop => []
  | .finished pins host => ({ link, pins, host } : Connection P H).finished.2.journal.callsInOrder

/-- What passes over the link, which takes an exchange and an edge of the host clock. -/
def turn? (link : Link) : Event P H → Option Turn
  | .exchange pins host =>
    if HostPins.hostEdge pins then some ({ link, pins, host } : Connection P H).turn else none
  | _ => none

/-- The word that the design shows to the host in an exchange, once its inputs are driven. -/
def shown? (link : Link) (event : Event P H) : Option UInt64 :=
  match event with
  | .exchange pins _ =>
    (event.turn? link).bind fun turn =>
      HostPins.hostOut (HostPins.driveHostIn turn.valid turn.word pins)
  | _ => none

/-- What passes over the link is all that an exchange calls for. -/
theorem calls_exchange (link : Link) (pins : P) (host : H) :
    (Event.exchange pins host).calls link =
      ((Event.exchange pins host).turn? link).toList.flatMap Turn.calls := by
  let connection : Connection P H := { link, pins, host }
  have opened : (Event.exchange pins host).calls link =
      connection.exchange.journal.callsInOrder := rfl
  rw [opened, turn?]
  -- The clock decides on both sides: without an edge there is neither turn nor call.
  cases edge : HostPins.hostEdge pins with
  | false =>
    rw [connection.exchange_of_idle edge]
    rfl
  | true =>
    obtain ⟨remarks, passed⟩ := connection.exchange_of_edge edge
    rw [passed, if_pos rfl, Option.toList_some, List.flatMap_singleton]
    exact Journal.callsInOrder_callAll connection.turn.calls {}

/-- Something passes over the link only in an exchange at an edge of the host clock. -/
theorem exchange_of_turn {link : Link} {event : Event P H} {turn : Turn}
    (passes : event.turn? link = some turn) :
    ∃ pins host, event = .exchange pins host ∧ HostPins.hostEdge pins = true ∧
      turn = ({ link, pins, host } : Connection P H).turn := by
  -- Requests and questions have no turn, whatever the link is like.
  cases event with
  | exchange pins host =>
    rw [turn?] at passes
    split at passes
    · rename_i edge
      exact ⟨pins, host, rfl, edge, (Option.some.inj passes).symm⟩
    · cases passes
  | requestStop => cases passes
  | finished pins host => cases passes

/-- An event in which something passes over the link leaves the link as that does. -/
theorem after_of_turn {link : Link} {event : Event P H} {turn : Turn}
    (passes : event.turn? link = some turn) : event.after link = link.afterTurn turn := by
  obtain ⟨pins, host, rfl, edge, rfl⟩ := exchange_of_turn passes
  obtain ⟨remarks, passed⟩ := ({ link, pins, host } : Connection P H).exchange_of_edge edge
  -- The event runs the exchange itself, so its link is read off what that returns.
  rw [after, passed]

/-- An event in which nothing passes over the link keeps the frame on its way in. -/
theorem after_of_no_turn {link : Link} {event : Event P H} (passes : event.turn? link = none) :
    (event.after link).frameBytes = link.frameBytes ∧
      (event.after link).pendingFrame? = link.pendingFrame? := by
  cases event with
  | exchange pins host =>
    rw [turn?] at passes
    split at passes
    · cases passes
    · rename_i idle
      rw [after, Connection.exchange_of_idle _ (Bool.not_eq_true _ ▸ idle)]
      exact ⟨rfl, rfl⟩
  | requestStop => exact ⟨rfl, rfl⟩
  | finished pins host =>
    -- Only what the link knows about stops changes.
    simp only [after, Connection.finished, Connection.forwardStop]
    split <;> exact ⟨rfl, rfl⟩

/-- Every frame asked for has the size of the frames of the link. -/
theorem size_of_turn {link : Link} {event : Event P H} {turn : Turn} {size : Nat}
    {answer : Option (List UInt8)} (passes : event.turn? link = some turn)
    (asked : turn.receipt? = some (size, answer)) : size = link.frameBytes := by
  obtain ⟨pins, host, rfl, edge, rfl⟩ := exchange_of_turn passes
  rw [Connection.turn, Connection.receipt?] at asked
  -- The host is asked, and then in the size of the link, or it is not.
  split at asked
  · cases asked
    rfl
  · cases asked

/-- The frame driven in is the one on its way afterwards. -/
theorem frame?_of_turn {link : Link} {event : Event P H} {turn : Turn}
    (passes : event.turn? link = some turn) :
    (if turn.valid then some turn.word else none) = (event.after link).pendingFrame? := by
  rw [after_of_turn passes]
  obtain ⟨pins, host, rfl, edge, rfl⟩ := exchange_of_turn passes
  -- The valid bit stands for the frame on its way, and the word is the one it holds.
  exact Connection.frame?_turn _

/-- Nothing is shown to the host when nothing passes over the link. -/
theorem shown?_of_no_turn {link : Link} {event : Event P H} (passes : event.turn? link = none) :
    event.shown? link = none := by
  -- Only in an exchange is anything shown to the host at all.
  cases event with
  | exchange pins host => simp only [shown?, passes, Option.bind_none]
  | requestStop => rfl
  | finished pins host => rfl

/-- What the design shows is sent as bytes, and nothing else is. -/
theorem sent?_of_turn {link : Link} {event : Event P H} {turn : Turn}
    (passes : event.turn? link = some turn) :
    turn.sent? = (event.shown? link).map (bytesOfWord link.frameBytes) := by
  obtain ⟨pins, host, rfl, edge, rfl⟩ := exchange_of_turn passes
  simp only [shown?, passes, Option.bind_some]
  -- The frame asked for before does not change the width.
  have width := Link.frameBytes_afterReceipt
    ({ link, pins, host } : Connection P H).receipt? link.countEdge
  have same : link.countEdge.frameBytes = link.frameBytes := rfl
  rw [← same, ← width]
  rfl

end Event

/-- A link and all that happens to it, one thing after another. -/
structure History (P H : Type) where
  /-- The link before anything has happened to it. -/
  link : Link
  events : Nat → Event P H

namespace History

/-- The link at some time. -/
def linkAt (history : History P H) : (now : Nat) → Link
  | 0 => history.link
  | now + 1 => (history.events now).after (history.linkAt now)

/-- The calls made at some time. -/
def callsAt (history : History P H) (now : Nat) : List Call :=
  (history.events now).calls (history.linkAt now)

/-- What passes over the link at some time. -/
def turnAt? (history : History P H) (now : Nat) : Option Turn :=
  (history.events now).turn? (history.linkAt now)

/-- The word that the design shows to the host. -/
def shownAt? (history : History P H) (now : Nat) : Option UInt64 :=
  (history.events now).shown? (history.linkAt now)

/-- The size of a frame asked for, with the answer. -/
def receiptAt? (history : History P H) (now : Nat) : Option (Nat × Option (List UInt8)) :=
  (history.turnAt? now).bind Turn.receipt?

/-- The bytes of the frame that is fetched from the host. -/
def fetchedAt? (history : History P H) (now : Nat) : Option (List UInt8) :=
  (history.receiptAt? now).bind Prod.snd

/-- The frame that is driven into the design. -/
def drivenAt? (history : History P H) (now : Nat) : Option UInt64 :=
  (history.turnAt? now).bind fun turn => if turn.valid then some turn.word else none

/-- The bytes that are sent to the host. -/
def sentAt? (history : History P H) (now : Nat) : Option (List UInt8) :=
  (history.turnAt? now).bind Turn.sent?

/-- The frames of a link keep their width. -/
theorem frameBytes_linkAt (history : History P H) (now : Nat) :
    (history.linkAt now).frameBytes = history.link.frameBytes := by
  induction now with
  | zero => rfl
  | succ now ih =>
    rw [linkAt, ← ih]
    -- An event with a turn leaves the link as the turn does, any other one keeps the frame.
    cases passes : (history.events now).turn? (history.linkAt now) with
    | none => exact (Event.after_of_no_turn passes).1
    | some turn => rw [Event.after_of_turn passes, Link.frameBytes_afterTurn]

/-- A frame is asked for in the size of the frames. -/
theorem size_of_receiptAt? {history : History P H} {now size : Nat}
    {answer : Option (List UInt8)} (asked : history.receiptAt? now = some (size, answer)) :
    size = history.link.frameBytes := by
  obtain ⟨turn, passes, receipt⟩ := Option.bind_eq_some_iff.mp asked
  -- The width at the time of the event is the width of the first link.
  rw [← history.frameBytes_linkAt now]
  exact Event.size_of_turn passes receipt

/-- The frame driven in is the one on its way afterwards, if anything passes over the link. -/
theorem drivenAt?_eq {history : History P H} {now : Nat} {turn : Turn}
    (passes : history.turnAt? now = some turn) :
    history.drivenAt? now = (history.linkAt (now + 1)).pendingFrame? := by
  -- The turn of the event drives what the link holds behind it.
  rw [drivenAt?, passes, Option.bind_some]
  exact Event.frame?_of_turn passes

/-- What the design shows is sent as bytes, and nothing else is. -/
theorem sentAt?_eq (history : History P H) (now : Nat) :
    history.sentAt? now =
      (history.shownAt? now).map (bytesOfWord history.link.frameBytes) := by
  rw [sentAt?, turnAt?, shownAt?, ← history.frameBytes_linkAt now]
  -- What is sent and what is shown belong to one turn, and without it neither is there.
  cases passes : (history.events now).turn? (history.linkAt now) with
  | none => rw [Event.shown?_of_no_turn passes, Option.bind_none, Option.map_none]
  | some turn => exact Event.sent?_of_turn passes

/-- What one more event makes of the frame on its way: it may be replaced, dropped or kept. -/
theorem pendingFrame?_succ (history : History P H) (now : Nat) :
    (history.linkAt (now + 1)).pendingFrame? =
      match history.receiptAt? now with
      | none => (history.linkAt now).pendingFrame?
      | some (size, answer) => answer.map (wordOfBytes size) := by
  rw [linkAt, receiptAt?, turnAt?]
  cases passes : (history.events now).turn? (history.linkAt now) with
  | none => exact (Event.after_of_no_turn passes).2
  | some turn =>
    rw [Event.after_of_turn passes, Link.pendingFrame?_afterTurn, Option.bind_some]
    -- The host was not asked, had nothing to give, or gave the next frame.
    match turn.receipt? with
    | none => rfl
    | some (_, none) => rfl
    | some (_, some _) => rfl

/-- A frame on its way was fetched at some time, since when the host was not asked again. -/
theorem source_of_pending {history : History P H} (fresh : history.link.pendingFrame? = none)
    {now : Nat} {word : UInt64} (pending : (history.linkAt now).pendingFrame? = some word) :
    ∃ before < now, ∃ bytes, history.fetchedAt? before = some bytes ∧
      wordOfBytes history.link.frameBytes bytes = word ∧
      ∀ between, before < between → between < now → history.receiptAt? between = none := by
  -- Either the last event has fetched the frame, or it was on its way before that.
  induction now with
  | zero =>
    rw [linkAt, fresh] at pending
    cases pending
  | succ now ih =>
    rw [pendingFrame?_succ] at pending
    cases asked : history.receiptAt? now with
    | none =>
      rw [asked] at pending
      obtain ⟨before, earlier, bytes, fetched, same, unasked⟩ := ih pending
      refine ⟨before, Nat.lt_succ_of_lt earlier, bytes, fetched, same, ?_⟩
      intro between since until_now
      -- The host was not asked now, and by the induction not before either.
      rcases Nat.lt_succ_iff_lt_or_eq.mp until_now with sooner | last
      · exact unasked between since sooner
      · rw [last]
        exact asked
    | some receipt =>
      obtain ⟨size, answer⟩ := receipt
      rw [asked] at pending
      obtain ⟨bytes, answered, same⟩ := Option.map_eq_some_iff.mp pending
      have sized : size = history.link.frameBytes := size_of_receiptAt? asked
      refine ⟨now, Nat.lt_succ_self now, bytes, ?_, sized ▸ same, ?_⟩
      · rw [fetchedAt?, asked, Option.bind_some, answered]
      · intro between since until_now
        exact absurd (Nat.lt_succ_iff.mp until_now) (not_le.mpr since)

/-- A fetched frame is driven in as its word. -/
theorem driven_of_fetched {history : History P H} {now : Nat} {bytes : List UInt8}
    (fetched : history.fetchedAt? now = some bytes) :
    history.drivenAt? now = some (wordOfBytes history.link.frameBytes bytes) := by
  obtain ⟨⟨size, answer⟩, asked, answered⟩ := Option.bind_eq_some_iff.mp fetched
  obtain ⟨turn, passes, -⟩ := Option.bind_eq_some_iff.mp asked
  have sized : size = history.link.frameBytes := size_of_receiptAt? asked
  -- The frame that was fetched is the one on its way behind the event, as its word.
  rw [drivenAt?_eq passes, pendingFrame?_succ, asked, ← sized]
  simp only at answered ⊢
  rw [answered, Option.map_some]

/-- What is driven in was fetched at some time, since when the host was not asked again. -/
theorem source_of_driven {history : History P H} (fresh : history.link.pendingFrame? = none)
    {now : Nat} {word : UInt64} (driven : history.drivenAt? now = some word) :
    ∃ before ≤ now, ∃ bytes, history.fetchedAt? before = some bytes ∧
      wordOfBytes history.link.frameBytes bytes = word ∧
      ∀ between, before < between → between ≤ now → history.receiptAt? between = none := by
  obtain ⟨turn, passes, -⟩ := Option.bind_eq_some_iff.mp driven
  -- It is the frame on its way afterwards, so the frame may have been fetched just now.
  rw [drivenAt?_eq passes] at driven
  obtain ⟨before, earlier, bytes, fetched, same, unasked⟩ := source_of_pending fresh driven
  refine ⟨before, Nat.lt_succ_iff.mp earlier, bytes, fetched, same, ?_⟩
  intro between since until_now
  exact unasked between since (Nat.lt_succ_of_le until_now)

/-- A frame that the design shows as it was given is sent in its size, filled up with zeros. -/
theorem sent_of_driven {history : History P H} (fits : history.link.frameBytes ≤ maxFrameBytes)
    {before now : Nat} {bytes : List UInt8} {word : UInt64}
    (fetched : history.fetchedAt? before = some bytes)
    (driven : history.drivenAt? before = some word) (shown : history.shownAt? now = some word) :
    history.sentAt? now = some (bytes.take history.link.frameBytes ++
      List.replicate (history.link.frameBytes - bytes.length) 0) := by
  -- The word shown is the word of the frame fetched, whose bytes are those of its size.
  rw [driven_of_fetched fetched] at driven
  rw [sentAt?_eq, shown, ← Option.some.inj driven, Option.map_some, bytesOfWord_wordOfBytes fits]

/-- A frame that the host gives as it was sent is driven in as what a frame can hold of its word. -/
theorem driven_of_sent {history : History P H} (fits : history.link.frameBytes ≤ maxFrameBytes)
    {before now : Nat} {word : UInt64} {bytes : List UInt8}
    (shown : history.shownAt? before = some word) (sent : history.sentAt? before = some bytes)
    (fetched : history.fetchedAt? now = some bytes) :
    ∃ received, history.drivenAt? now = some received ∧
      received.toNat = word.toNat % 256 ^ history.link.frameBytes := by
  rw [sentAt?_eq, shown, Option.map_some] at sent
  refine ⟨_, driven_of_fetched fetched, ?_⟩
  -- The bytes sent are those of the word, and reading them back cuts it to the size.
  rw [← Option.some.inj sent, toNat_wordOfBytes_bytesOfWord fits]

/-- Frames survive the trip between bytes and words on a link of some width. -/
structure CarriesFrames (bits : UInt32) (history : History P H) : Prop where
  width : bits.toNat = 8 * history.link.frameBytes ∧
    1 ≤ history.link.frameBytes ∧ history.link.frameBytes ≤ maxFrameBytes
  /-- All calls of an exchange are those for what passes over the link. -/
  calls : ∀ now pins host, history.events now = .exchange pins host →
    history.callsAt now = (history.turnAt? now).toList.flatMap Turn.calls
  /--
  What passes over the link happens to its ends, and without an edge of the host clock nothing.

  So the frames below are driven into the design, and fetched from and sent to the host.
  -/
  ends : ∀ now pins host, history.events now = .exchange pins host →
    let before : Connection P H := { link := history.linkAt now, pins, host }
    (history.turnAt? now).isSome = HostPins.hostEdge pins ∧
      match history.turnAt? now with
      | none => before.exchange = before
      | some turn => Connection.Happens turn before before.exchange
  /-- The host is asked for as many bytes as a frame has. -/
  asked : ∀ now size answer, history.receiptAt? now = some (size, answer) →
    size = history.link.frameBytes
  /-- A fetched frame is driven in at once, as the word that its bytes and no others spell. -/
  fetched : ∀ now bytes, history.fetchedAt? now = some bytes →
    ∃ word, history.drivenAt? now = some word ∧ Spells history.link.frameBytes bytes word
  /-- Whatever is driven in is the frame that the host gave when it was asked last. -/
  driven : ∀ now word, history.drivenAt? now = some word →
    ∃ before ≤ now, ∃ bytes, history.fetchedAt? before = some bytes ∧
      Spells history.link.frameBytes bytes word ∧
      ∀ between, before < between → between ≤ now → history.receiptAt? between = none
  /-- A word that is shown is sent at once, as bytes that spell what a frame can hold of it. -/
  sent : ∀ now word, history.shownAt? now = some word →
    ∃ bytes, history.sentAt? now = some bytes ∧ bytes.length = history.link.frameBytes ∧
      littleEndian bytes = word.toNat % 2 ^ (8 * history.link.frameBytes)
  unsent : ∀ now, history.shownAt? now = none → history.sentAt? now = none
  /-- A design that shows a frame it was given sends the bytes fetched. -/
  echoedIn : ∀ before bytes word now, history.fetchedAt? before = some bytes →
    history.drivenAt? before = some word → history.shownAt? now = some word →
      bytes.length = history.link.frameBytes → history.sentAt? now = some bytes
  /-- If these were too many or too few, they are cut off or filled up with zeros. -/
  paddedIn : ∀ before bytes word now, history.fetchedAt? before = some bytes →
    history.drivenAt? before = some word → history.shownAt? now = some word →
      history.sentAt? now = some (bytes.take history.link.frameBytes ++
        List.replicate (history.link.frameBytes - bytes.length) 0)
  /-- A host that gives a frame it was sent lets the design receive what a frame can hold. -/
  echoedOut : ∀ before word bytes now, history.shownAt? before = some word →
    history.sentAt? before = some bytes → history.fetchedAt? now = some bytes →
      ∃ received, history.drivenAt? now = some received ∧
        received.toNat = word.toNat % 2 ^ (8 * history.link.frameBytes)

/--
On every new link, frames survive the trip between bytes and words.

The design and the host may do anything between two exchanges, and stops may be requested.
-/
theorem carriesFrames_of_width {bits : UInt32} {history : History P H}
    (accepted : Link.ofWidth bits = .ok history.link) : history.CarriesFrames bits := by
  -- A new link has the width of the frames from the pins, and no frame on its way.
  obtain ⟨size, sized, link⟩ := Link.eq_of_ofWidth accepted
  have width : history.link.frameBytes = size := by rw [link]
  have fresh : history.link.pendingFrame? = none := by rw [link]; rfl
  subst size
  obtain ⟨whole, positive, fits⟩ := bits_of_frameBytes sized
  -- A byte takes eight of the bits to which a word is cut off.
  have power : (2 : Nat) ^ (8 * history.link.frameBytes) = 256 ^ history.link.frameBytes :=
    pow_mul 2 8 _
  constructor
  case width => exact ⟨whole, positive, fits⟩
  case calls =>
    intro now pins host happens
    rw [callsAt, turnAt?, happens, Event.calls_exchange]
  case ends =>
    intro now pins host happens before
    have passes : history.turnAt? now =
        if HostPins.hostEdge pins then some before.turn else none := by
      rw [turnAt?, happens, Event.turn?]
    rw [passes]
    cases edge : HostPins.hostEdge pins with
    | false => exact ⟨rfl, before.exchange_of_idle edge⟩
    | true => exact ⟨rfl, before.happens_of_edge edge⟩
  case asked => exact fun now size answer asked => size_of_receiptAt? asked
  case fetched =>
    intro now bytes fetched
    exact ⟨_, driven_of_fetched fetched, spells_wordOfBytes fits bytes⟩
  case driven =>
    intro now word driven
    obtain ⟨before, earlier, bytes, fetched, rfl, unasked⟩ := source_of_driven fresh driven
    exact ⟨before, earlier, bytes, fetched, spells_wordOfBytes fits bytes, unasked⟩
  case sent =>
    intro now word shown
    refine ⟨_, ?_, length_bytesOfWord _ word, ?_⟩
    · rw [sentAt?_eq, shown, Option.map_some]
    · rw [littleEndian_bytesOfWord, power]
  case unsent =>
    intro now shown
    rw [sentAt?_eq, shown, Option.map_none]
  case echoedIn =>
    intro before bytes word now fetched driven shown exact_size
    -- A frame of full size has nothing to cut off and nothing to fill up.
    rw [sent_of_driven fits fetched driven shown, exact_size, Nat.sub_self, List.replicate_zero,
      List.append_nil, List.take_of_length_le exact_size.le]
  case paddedIn =>
    intro before bytes word now fetched driven shown
    exact sent_of_driven fits fetched driven shown
  case echoedOut =>
    intro before word bytes now shown sent fetched
    rw [power]
    exact driven_of_sent fits shown sent fetched

/-- A short frame after a longer one, which the design sends back before. -/
theorem carriesFrames_of_short_frame :
    let history : History StagedDesign StagedHost :=
      { link := { frameBytes := 2 }
        events := fun
          | 0 => .exchange {} { answers := [some [1, 2]] }
          | 1 => .requestStop
          | 2 => .exchange { stages := [{ inReady := false, shown := some 0x201 }] } {}
          | _ => .exchange {} { answers := [some [3]] } }
    Link.ofWidth 16 = .ok history.link ∧
      (List.range 4).map history.drivenAt? = [some 0x201, none, some 0x201, some 3] ∧
      history.sentAt? 2 = some [1, 2] ∧ history.CarriesFrames 16 := by
  intro history
  have accepted : Link.ofWidth 16 = .ok history.link := rfl
  -- The two bytes of the first frame stay in place until the second one is fetched.
  have driven : (List.range 4).map history.drivenAt? = [some 0x201, none, some 0x201, some 3] := by
    decide +kernel
  have sent : history.sentAt? 2 = some [1, 2] := by decide +kernel
  clear_value history
  exact ⟨accepted, driven, sent, carriesFrames_of_width accepted⟩

end History

end Testbench.Host
