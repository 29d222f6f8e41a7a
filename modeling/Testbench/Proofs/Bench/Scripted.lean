import Testbench.Memory.Ideal
import Testbench.Proofs.Bench.Fresh

/-! A design and a host that follow a script, on which statements about runs can be tried. -/

namespace Testbench

/-- A design without memory that retires the instructions of a program, one in each cycle. -/
structure ScriptedDesign where
  program : List UInt32 := []
  /-- The cycle in which the design finds itself inconsistent. -/
  faultyCycle : Option Nat := none
  /-- The cycles committed so far. -/
  cycle : Nat := 0

instance : Design ScriptedDesign where
  hostEdge _ := true
  hostInReady _ := true
  driveHostIn _ _ design := design
  hostOut _ := none
  driveHostReady _ design := design
  hostWidth _ := 64
  initialise _ design := design
  geometry _ := { channels := 0, base := 0, defaultBytes := 0, beatBytes := 8, lineBytes := 64 }
  driveChannel _ _ design := design
  offers _ _ := {}
  settle reset design :=
    (if !reset && design.faultyCycle == some design.cycle then some ⟨"assertion failed"⟩ else none,
      design)
  commit reset design := if reset then design else { design with cycle := design.cycle + 1 }
  -- Behind the program there is nothing but `nop`.
  instruction design := design.program.getD design.cycle 0x13
  dump _ design sink := (none, design, sink)
  print _ sink := (none, sink)

/-- A host that finishes when it is told to, and reports a status from then on. -/
structure ScriptedHost where
  lastStatus : Int32 := 0
  isFinished : Bool := false

instance : Host ScriptedHost where
  receive _ host := (none, host)
  send _ host := host
  finished host := host.isFinished
  status host := if host.isFinished then host.lastStatus else 0
  stop host := { host with isFinished := true }

/-- A bench for a script, which takes no memories. -/
def scriptedBench (cycleLimit : UInt64) (design : ScriptedDesign) (host : ScriptedHost) :
    Bench ScriptedDesign ScriptedHost Memory.Ideal where
  settings := { cycleLimit }
  design := design
  host := host
  channels := []
  link := { frameBytes := 8 }

/-- The bench for a script is the one that is assembled for it. -/
theorem assemble_scripted (cycleLimit : UInt64) (design : ScriptedDesign) (host : ScriptedHost) :
    Bench.assemble { cycleLimit } design host [] =
      .ok (scriptedBench cycleLimit design host) := by
  -- A script offers nothing to memories, and its frames are eight bytes wide.
  have channels : (Design.geometry design).channels = 0 := rfl
  have width : HostPins.hostWidth design = 64 := rfl
  have link : Host.Link.ofWidth 64 = .ok { frameBytes := 8 } := rfl
  simp [Bench.assemble, channels, width, link, scriptedBench]

/-- No cycle was run yet on the bench for a script. -/
theorem fresh_scriptedBench (cycleLimit : UInt64) (design : ScriptedDesign)
    (host : ScriptedHost) : (scriptedBench cycleLimit design host).Fresh :=
  -- Being assembled is all that a fresh bench needs.
  Bench.fresh_of_assemble (assemble_scripted cycleLimit design host)

end Testbench
