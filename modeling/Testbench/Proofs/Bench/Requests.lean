import Mathlib.Logic.Function.Conjugate
import Testbench.Proofs.Bench.Exchanges
import Testbench.Proofs.Bench.Failure

/-! A cycle takes no notice of a request to stop, which waits on the link for the next question. -/

namespace Testbench

open Function (Commute)

namespace Host.Connection

variable {P H : Type} [HostPins P] [Host H]

/-- A connection over whose link a stop is requested. -/
def requestStop (connection : Connection P H) : Connection P H :=
  { connection with link := connection.link.requestStop }

/-- The host is asked for a frame whether a stop is requested or not. -/
theorem commute_refill : Commute (refill (P := P) (H := H)) requestStop := by
  -- Whether the host is asked goes by the design and the frame on its way in alone.
  intro connection
  unfold refill
  have asks : (HostPins.hostInReady connection.requestStop.pins ||
      !connection.requestStop.link.pending) =
      (HostPins.hostInReady connection.pins || !connection.link.pending) := rfl
  rw [asks]
  split
  · unfold fetch
    have answer : Host.receive connection.requestStop.link.frameBytes connection.requestStop.host =
      Host.receive connection.link.frameBytes connection.host := rfl
    simp only [answer]
    cases (Host.receive connection.link.frameBytes connection.host).1 <;> rfl
  · rfl

/-- Frames are passed out whether a stop is requested or not. -/
theorem commute_passOut : Commute (passOut (P := P) (H := H)) requestStop := by
  intro connection
  unfold passOut
  have shown : HostPins.hostOut connection.requestStop.pins =
      HostPins.hostOut connection.pins := rfl
  -- The request is on the link, and the pins alone decide what is passed out.
  rw [shown]
  cases HostPins.hostOut connection.pins <;> rfl

/-- Frames pass over a connection whether a stop is requested or not. -/
theorem commute_exchange : Commute (exchange (P := P) (H := H)) requestStop := by
  intro connection
  unfold exchange
  have edge : HostPins.hostEdge connection.requestStop.pins =
      HostPins.hostEdge connection.pins := rfl
  rw [edge]
  -- At an edge the request moves behind one part of the exchange after another.
  split
  · have counts : Commute (countEdge (P := P) (H := H)) requestStop := fun _ => rfl
    have drivesIn : Commute (driveIn (P := P) (H := H)) requestStop := fun _ => rfl
    have drivesReady : Commute (driveReady (P := P) (H := H)) requestStop := fun _ => rfl
    exact (drivesReady.comp_left (commute_passOut.comp_left
      (drivesIn.comp_left (commute_refill.comp_left counts)))) connection
  · rfl

end Host.Connection

namespace Bench

section Parts

variable {D H M : Type}

/-- A remark about a failure is made whether a stop is requested or not. -/
theorem commute_remarkFault (remark : SystemFault → Remark) (cause : Option SystemFault) :
    Commute (remarkFault (D := D) (H := H) (M := M) remark cause) requestStop := by
  intro bench
  -- A remark goes to the journal, a request to the link.
  cases cause <;> rfl

/-- A line about a benchmark is written whether a stop is requested or not. -/
theorem commute_notice (line : String) :
    Commute (notice (D := D) (H := H) (M := M) line) requestStop := by
  intro bench
  -- The sink is written on either way, and what is left of the line is the remark about a failure.
  let written := bench.sinks.notices.writeLine line
  exact congrArg (fun told : Bench D H M =>
    { told with sinks := { bench.sinks with notices := written.2 } })
    (commute_remarkFault .noticeFailed written.1 bench)

/-- A start marker restarts the counter whether a stop is requested or not. -/
theorem commute_handleStart : Commute (handleStart (D := D) (H := H) (M := M)) requestStop := by
  intro bench
  unfold handleStart Marker.Detector.takeStarted
  have same : bench.requestStop.detector = bench.detector := rfl
  rw [same]
  -- The detector decides, and it does not see the request.
  cases bench.detector.started with
  | false => rfl
  | true =>
    let watched := { bench with detector := { bench.detector with started := false } }
    -- What follows the notice sets other parts of the bench than the link.
    exact congrArg (fun noticed : Bench D H M =>
      { noticed with counter := bench.counter.restart, restarts := bench.restarts + 1 })
      (commute_notice "Emulator: resetting cycle count"
        (watched.remark (.startMarker bench.counter.cycles)))

/-- A stop marker reports the counter whether a stop is requested or not. -/
theorem commute_handleStop : Commute (handleStop (D := D) (H := H) (M := M)) requestStop := by
  intro bench
  unfold handleStop Marker.Detector.takeStopped
  have same : bench.requestStop.detector = bench.detector := rfl
  rw [same]
  -- As for a start marker: the detector decides, and the rest follows the notice.
  cases bench.detector.stopped with
  | false => rfl
  | true =>
    let watched := { bench with detector := { bench.detector with stopped := false } }
    exact congrArg (fun noticed : Bench D H M =>
      { noticed with benchmarks := bench.benchmarks ++ [bench.counter.cycles] })
      (commute_notice s!"Emulator: Cycle count is {bench.counter.cycles.toNat}"
        (watched.remark (.stopMarker bench.counter.cycles)))

/-- A failure to settle is told of whether a stop is requested or not. -/
theorem commute_recordFault (fault : EvaluationFault) :
    Commute (recordFault (D := D) (H := H) (M := M) fault) requestStop := by
  intro bench
  let written := bench.sinks.diagnostics.writeLine fault.message
  -- The remark commutes, and the fields set around it are not on the link.
  exact congrArg (fun told : Bench D H M =>
    { told with
      sinks := { bench.sinks with diagnostics := written.2 }
      budget := bench.counter.cycles
      evaluationFault := some fault })
    (commute_remarkFault .evaluationUnreported written.1
      (bench.remark (.evaluationFailed bench.counter.cycles fault)))

variable [Design D]

/-- The design is printed whether a stop is requested or not. -/
theorem commute_printDesign : Commute (printDesign (D := D) (H := H) (M := M)) requestStop := by
  intro bench
  unfold printDesign
  have same : (bench.requestStop.settings.verbose &&
      decide (bench.requestStop.settings.traceStart ≤ bench.requestStop.counter.cycles)) =
      (bench.settings.verbose && decide (bench.settings.traceStart ≤ bench.counter.cycles)) := rfl
  rw [same]
  -- Verbosity and the cycle decide about the print, and neither has to do with the link.
  split
  · let printed := Design.print bench.design bench.sinks.diagnostics
    exact congrArg (fun told : Bench D H M =>
      { told with sinks := { bench.sinks with diagnostics := printed.2 } })
      (commute_remarkFault .printFailed printed.1 (bench.call (.print printed.1)))
  · rfl

/-- A cycle is traced whether a stop is requested or not. -/
theorem commute_recordTrace : Commute (recordTrace (D := D) (H := H) (M := M)) requestStop := by
  intro bench
  unfold recordTrace
  have same : bench.requestStop.recorder = bench.recorder := rfl
  rw [same]
  cases bench.recorder with
  | none => rfl
  | some recorder =>
    -- What is recorded depends on the counter, the design and the sink.
    let recorded := recorder.record bench.counter.cycles bench.design bench.sinks.traceSink
    exact commute_remarkFault .traceFailed recorded.fault
      { bench with
        design := recorded.design
        sinks := bench.sinks.withTrace recorded.sink
        recorder := recorded.recorder?
        journal := bench.journal.callAll (recorded.calls bench.counter.cycles) }

/-- Markers are watched for whether a stop is requested or not. -/
theorem commute_observeMarkers :
    Commute (observeMarkers (D := D) (H := H) (M := M)) requestStop := by
  intro bench
  -- Observing touches the detector only, so the two markers are all that is left.
  let watching := { bench with
    detector := bench.detector.observe (Design.instruction bench.design) }
  exact (commute_handleStop.comp_left commute_handleStart) watching

variable [Host H]

/-- Frames pass over the link whether a stop is requested or not. -/
theorem commute_exchange : Commute (exchange (D := D) (H := H) (M := M)) requestStop := by
  -- The connection is taken off the bench and put back, and the rest of the bench stays.
  intro bench
  exact congrArg (fun connection => { bench with
    link := connection.link
    design := connection.pins
    host := connection.host
    journal := connection.journal }) (Host.Connection.commute_exchange bench.connection)

end Parts

section Step

variable {D H M : Type} [Design D] [Host H] [Memory M]

/-- What follows on settling is done whether a stop is requested or not. -/
theorem commute_observe (fault : Option EvaluationFault) :
    Commute (observe (D := D) (H := H) (M := M) fault) requestStop := by
  -- Both courses are chains of parts each of which lets the request pass.
  cases fault with
  | none =>
    have serves : Commute (passOffers (D := D) (H := H) (M := M)) requestStop := fun _ => rfl
    exact commute_recordTrace.comp_left (commute_observeMarkers.comp_left
      (commute_printDesign.comp_left (commute_exchange.comp_left serves)))
  | some found =>
    exact commute_recordTrace.comp_left
      (commute_printDesign.comp_left (commute_recordFault found))

/-- A cycle in which a stop is requested does all that it does without, and leaves the request. -/
theorem step_true (bench : Bench D H M) : bench.step true = (bench.step false).requestStop := by
  -- The request comes first in the cycle, and moves behind one part after another.
  have settled : (bench.settledIn true).2 = (bench.settledIn false).2.requestStop := rfl
  rw [step_eq_commit, step_eq_commit, beforeCommit, beforeCommit, settled,
    commute_observe bench.faultIn]
  rfl

/-- A turn of the link does not touch the requests to stop. -/
theorem stop_afterTurn (turn : Host.Turn) (link : Host.Link) :
    (link.afterTurn turn).stopRequested = link.stopRequested ∧
      (link.afterTurn turn).stopForwarded = link.stopForwarded := by
  -- A turn loads a frame or leaves it, and counts.
  obtain ⟨receipt?, valid, word, sent?⟩ := turn
  unfold Host.Link.afterTurn Host.Link.afterReceipt Host.Link.afterSending
  constructor <;> (split <;> split <;> rfl)

/-- A cycle adds its own request to stop, if there is one, and forwards none. -/
theorem stop_step (requested : Bool) (bench : Bench D H M) :
    (bench.step requested).link.stopRequested = (bench.link.stopRequested || requested) ∧
      (bench.step requested).link.stopForwarded = bench.link.stopForwarded := by
  have asked : (bench.linkIn requested).stopRequested = (bench.link.stopRequested || requested) ∧
      (bench.linkIn requested).stopForwarded = bench.link.stopForwarded := by
    cases requested <;> simp [linkIn, Host.Link.requestStop]
  -- After the request, only an exchange touches the link, and it passes frames and counts them.
  cases found : bench.faultIn with
  | some fault =>
    obtain ⟨_, _, _, _, same⟩ := step_of_fault found requested
    rw [same]
    exact asked
  | none =>
    cases edge : bench.gated with
    | false =>
      rw [(link_step_of_idle requested found edge).1]
      exact asked
    | true =>
      rw [link_step_of_edge requested found edge, (stop_afterTurn _ _).1, (stop_afterTurn _ _).2]
      exact asked

end Step

end Bench

end Testbench
