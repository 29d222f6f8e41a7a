import Testbench.Marker.Window

/-! Detection of the instruction sequences that bracket a benchmark. -/

namespace Testbench.Marker

/-- The sequence that starts a benchmark: `addi a0, a0` with the letters `E`, `M`, `B`, `E`. -/
def startMarker : List UInt32 :=
  [0x04550513, 0x04d50513, 0x04250513, 0x04550513]

/-- The sequence that stops a benchmark: `addi a0, a0` with the letters `C`, `O`, `S`, `M`. -/
def stopMarker : List UInt32 :=
  [0x04350513, 0x04f50513, 0x05350513, 0x04d50513]

/-- The recent instructions, and the markers completed since each was last asked for. -/
structure Detector where
  window : Window := {}
  started : Bool := false
  stopped : Bool := false
  deriving DecidableEq, Inhabited

/--
Observes a retiring instruction, and compares with the markers only when the window changes.

An instruction that stays current for several cycles therefore completes a marker once.
-/
def Detector.observe (instruction : UInt32) (detector : Detector) : Detector :=
  if detector.window.changesWith instruction then
    let window := detector.window.push instruction
    -- A completed marker that nobody asked about yet absorbs the next one.
    { window
      started := detector.started || window.shows startMarker
      stopped := detector.stopped || window.shows stopMarker }
  else detector

/-- Asks whether a start marker was completed, and forgets it. -/
def Detector.takeStarted (detector : Detector) : Bool × Detector :=
  (detector.started, { detector with started := false })

/-- Asks whether a stop marker was completed, and forgets it. -/
def Detector.takeStopped (detector : Detector) : Bool × Detector :=
  (detector.stopped, { detector with stopped := false })

end Testbench.Marker
