import Testbench.Bench.Summary
import Testbench.Channel.Basic
import Testbench.Design.Basic
import Testbench.Host.Link
import Testbench.Marker.Detector
import Testbench.Trace.Recorder

/-! The bench around a design: its memories, its host, and what is observed of it. -/

namespace Testbench

/-- The limit of a run for which none is given: the last cycle that can be counted. -/
def lastCycle : UInt64 := UInt64.ofNat (UInt64.size - 1)

/-- What stays fixed over a run. -/
structure Settings where
  /-- The run times out when the cycle counter gets here. -/
  cycleLimit : UInt64 := lastCycle
  /-- The first cycle behind zero that is traced and, when verbose, printed. -/
  traceStart : UInt64 := 0
  /-- Print the design in every such cycle. -/
  verbose : Bool := false
  /-- The seed given to the design. -/
  seed : UInt32 := 0
  deriving DecidableEq, Inhabited

/-- The cycles since the start of the run or the last start marker. -/
structure Counter where
  cycles : UInt64 := 0
  deriving DecidableEq, Inhabited

/-- One more cycle. -/
def Counter.advance (counter : Counter) : Counter :=
  ⟨counter.cycles + 1⟩

/-- Counting starts again at zero. -/
def Counter.restart (_ : Counter) : Counter :=
  {}

/-- The output sinks of a bench. -/
structure Sinks where
  /-- The lines about benchmarks. -/
  notices : Sink := {}
  /-- Prints of the design and its faults. -/
  diagnostics : Sink := {}
  /-- The trace, which goes between the notices when it has no sink of its own. -/
  trace : Option Sink := none

/-- The sink on which the trace is written. -/
def Sinks.traceSink (sinks : Sinks) : Sink :=
  sinks.trace.getD sinks.notices

/-- Puts back the sink on which the trace is written. -/
def Sinks.withTrace (written : Sink) (sinks : Sinks) : Sinks :=
  match sinks.trace with
  | none => { sinks with notices := written }
  | some _ => { sinks with trace := some written }

/-- A design `D` on a bench, with a host `H` and a memory `M` behind each channel. -/
structure Bench (D H M : Type) where
  settings : Settings
  design : D
  host : H
  channels : List (Channel M)
  link : Host.Link
  detector : Marker.Detector := {}
  counter : Counter := {}
  /-- The counter at which the run stops: the limit until an evaluation fails. -/
  budget : UInt64 := settings.cycleLimit
  /-- The start markers seen, of which a counter of 64 bits could hold fewer than `2 ^ 64`. -/
  restarts : Nat := 0
  benchmarks : List UInt64 := []
  evaluationFault : Option EvaluationFault := none
  /-- The recorder, until a record could not be written or the run is over. -/
  recorder : Option Trace.Recorder := none
  sinks : Sinks := {}
  journal : Journal := {}

variable {D H M : Type} [Design D] [Host H] [Memory M]

/-- Puts a design on the bench, with one memory for each of its channels. -/
def Bench.assemble (settings : Settings) (design : D) (host : H) (memories : List M) :
    Except SetupFault (Bench D H M) :=
  let geometry := Design.geometry design
  if memories.length ≠ geometry.channels then
    .error (.channelMismatch geometry.channels memories.length)
  else
    match Host.Link.ofWidth (HostPins.hostWidth design) with
    | .error fault => .error fault
    | .ok link =>
      -- The memories are as many as the channels, so each channel has its own.
      let channels := memories.mapIdx fun index memory =>
        Channel.ofMemory geometry.base index memory
      .ok { settings, design, host, channels, link }

/-- Asks for the run to wind down at the next cycle boundary. -/
def Bench.requestStop (bench : Bench D H M) : Bench D H M :=
  { bench with link := bench.link.requestStop }

/-- Asks for the run to wind down if a stop is requested at some moment. -/
def Bench.requestStopIf (requested : Bool) (bench : Bench D H M) : Bench D H M :=
  if requested then bench.requestStop else bench

/-- Notes a call. -/
def Bench.call (call : Call) (bench : Bench D H M) : Bench D H M :=
  { bench with journal := bench.journal.call call }

/-- Notes a remark. -/
def Bench.remark (remark : Remark) (bench : Bench D H M) : Bench D H M :=
  { bench with journal := bench.journal.remark remark }

/-- Notes a remark about a failure, if there was one. -/
def Bench.remarkFault (remark : SystemFault → Remark) (fault : Option SystemFault)
    (bench : Bench D H M) : Bench D H M :=
  match fault with
  | none => bench
  | some cause => bench.remark (remark cause)

/-- The link with the design and the host at its ends. -/
def Bench.connection (bench : Bench D H M) : Host.Connection D H :=
  { link := bench.link, pins := bench.design, host := bench.host,
    journal := bench.journal }

/-- Puts the link and what is at its ends back on the bench. -/
def Bench.withConnection (connection : Host.Connection D H) (bench : Bench D H M) :
    Bench D H M :=
  { bench with
    link := connection.link
    design := connection.pins
    host := connection.host
    journal := connection.journal }

end Testbench
