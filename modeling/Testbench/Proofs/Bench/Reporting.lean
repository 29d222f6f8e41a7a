import Testbench.Proofs.Bench.Scripted

/-! A design that reports its cycles on the sinks given to it, which may have no room for them. -/

namespace Testbench

/-- A design without memory that retires a program, and reports the cycle when it is asked to. -/
structure ReportingDesign where
  program : List UInt32 := []
  /-- The cycles committed so far. -/
  cycle : Nat := 0

instance : Design ReportingDesign where
  hostEdge _ := true
  hostInReady _ := true
  driveHostIn _ _ design := design
  hostOut _ := none
  driveHostReady _ design := design
  hostWidth _ := 64
  initialise _ design := design
  geometry _ := { channels := 0, base := 0, defaultBytes := 0, beatBytes := 8, lineBytes := 64 }
  driveChannel _ _ design := design
  offers _ _ := {}
  settle _ design := (none, design)
  commit reset design := if reset then design else { design with cycle := design.cycle + 1 }
  -- Behind the program there is nothing but `nop`.
  instruction design := design.program.getD design.cycle 0x13
  -- A report is as good as the sink, whose fault is passed on.
  dump cycle design sink :=
    let (fault, written) := sink.writeLine s!"#{cycle.toNat}"
    (fault, design, written)
  print design sink := sink.writeLine s!"pc cycle {design.cycle}"

/-- A sink with room for some attempts, which refuses all later ones. -/
def Sink.withRoom (room : Nat) : Sink where
  answer earlier _ := if earlier.length < room then none else some (.closed "closed")

/--
A bench for a program, the cycles of which are reported on the given sinks.

Nobody tells the host to finish, so the run goes on to the cycle limit.
-/
def reportingBench (settings : Settings) (program : List UInt32)
    (recorder : Option Trace.Recorder) (sinks : Sinks) :
    Bench ReportingDesign ScriptedHost Memory.Ideal where
  settings := settings
  design := { program }
  host := {}
  channels := []
  link := { frameBytes := 8 }
  recorder := recorder
  sinks := sinks

/-- Without a trace and with open sinks, the bench for a program is the one assembled for it. -/
theorem assemble_reportingBench (settings : Settings) (program : List UInt32) :
    Bench.assemble settings ({ program } : ReportingDesign) ({} : ScriptedHost) [] =
      .ok (reportingBench settings program none {}) := by
  -- No channels, so no memories either, and a link of eight bytes a frame.
  have channels (design : ReportingDesign) : (Design.geometry design).channels = 0 := rfl
  have width (design : ReportingDesign) : HostPins.hostWidth design = 64 := rfl
  have link : Host.Link.ofWidth 64 = .ok { frameBytes := 8 } := rfl
  simp [Bench.assemble, channels, width, link, reportingBench]

end Testbench
