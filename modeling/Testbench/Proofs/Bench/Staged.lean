import Testbench.Memory.Ideal
import Testbench.Proofs.Bench.Fresh
import Testbench.Proofs.Host.Inputs

/-! A design and a host that act out a list of stages, one in each cycle. -/

namespace Testbench

/-- What a staged design does in one cycle. -/
structure Stage where
  /-- The inconsistency that the design finds. -/
  fault : Option EvaluationFault := none
  edge : Bool := true
  inReady : Bool := true
  /-- The frame shown to the host. -/
  shown : Option UInt64 := none
  /-- What is asked of the memories, channel by channel. -/
  offers : List Offers := []

/-- A design that goes from stage to stage, and keeps what is driven on its host inputs. -/
structure StagedDesign where
  channels : Nat := 0
  stages : List Stage := []
  /-- The cycles committed so far. -/
  cycle : Nat := 0
  inputs : Host.Inputs := {}

/-- The stage of the current cycle. -/
def StagedDesign.stage (design : StagedDesign) : Stage :=
  design.stages.getD design.cycle {}

instance : Design StagedDesign where
  hostEdge design := design.stage.edge
  hostInReady design := design.stage.inReady
  driveHostIn valid word design :=
    { design with inputs := { design.inputs with valid, word } }
  hostOut design := design.stage.shown
  driveHostReady ready design := { design with inputs := { design.inputs with ready } }
  hostWidth _ := 16
  initialise _ design := design
  geometry design :=
    { channels := design.channels, base := 0x100, defaultBytes := 0, beatBytes := 2,
      lineBytes := 2 }
  driveChannel _ _ design := design
  offers design channel := design.stage.offers.getD channel {}
  settle reset design := (if reset then none else design.stage.fault, design)
  -- In reset the design stays in its first stage.
  commit reset design := if reset then design else { design with cycle := design.cycle + 1 }
  instruction _ := 0x13
  dump _ design sink := (none, design, sink)
  print _ sink := (none, sink)

/-- A staged design holds its host inputs. -/
def StagedDesign.held : HeldInputs StagedDesign where
  inputs := StagedDesign.inputs
  driveHostIn _ _ _ := rfl
  driveHostReady _ _ := rfl
  initialise _ _ := rfl
  driveChannel _ _ _ := rfl
  settle _ _ := rfl
  commit reset _ := by cases reset <;> rfl
  dump _ _ _ := rfl

/-- A host with the answers that it gives when it is asked for frames. -/
structure StagedHost where
  answers : List (Option (List UInt8)) := []
  sent : List (List UInt8) := []
  stopped : Bool := false

instance : Host StagedHost where
  receive _ host :=
    match host.answers with
    | [] => (none, host)
    | answer :: answers => (answer, { host with answers })
  send bytes host := { host with sent := host.sent ++ [bytes] }
  -- A host with more to say does not finish yet.
  finished host := host.stopped && host.answers.isEmpty
  status _ := 0
  stop host := { host with stopped := true }

/-- A memory of four bytes for each channel of a staged design. -/
def stagedMemories (design : StagedDesign) : List Memory.Ideal :=
  List.replicate design.channels { cells := #[10, 20, 30, 40], width := 2 }

/-- A bench for some stages. -/
def stagedBench (settings : Settings) (design : StagedDesign) (host : StagedHost) :
    Bench StagedDesign StagedHost Memory.Ideal where
  settings := settings
  design := design
  host := host
  channels := (stagedMemories design).mapIdx (Channel.ofMemory 0x100)
  link := { frameBytes := 2 }

/-- The bench for some stages is the one that is assembled for them. -/
theorem assemble_staged (settings : Settings) (design : StagedDesign) (host : StagedHost) :
    Bench.assemble settings design host (stagedMemories design) =
      .ok (stagedBench settings design host) := by
  -- Each channel of the script gets a memory of its own.
  have matched : (stagedMemories design).length = (Design.geometry design).channels :=
    List.length_replicate
  have base : (Design.geometry design).base = 0x100 := rfl
  have width : HostPins.hostWidth design = 16 := rfl
  have link : Host.Link.ofWidth 16 = .ok { frameBytes := 2 } := rfl
  simp [Bench.assemble, matched, base, width, link, stagedBench]

end Testbench
