import Testbench.Design.Basic
import Testbench.Proofs.Bench.Calls

/-! Designs whose host inputs hold what was driven last, until they are driven again. -/

namespace Testbench

/-- What is on the host inputs of a design. -/
structure Host.Inputs where
  valid : Bool := false
  word : UInt64 := 0
  ready : Bool := false
  deriving DecidableEq

/-- The frame on the inputs, if it is marked as valid. -/
def Host.Inputs.frame? (inputs : Host.Inputs) : Option UInt64 :=
  if inputs.valid then some inputs.word else none

/-- A design whose host inputs change only when they are driven. -/
structure HeldInputs (D : Type) [Design D] where
  /-- What is on the host inputs. -/
  inputs : D → Host.Inputs
  driveHostIn : ∀ valid word design,
    inputs (HostPins.driveHostIn valid word design) = { inputs design with valid, word }
  driveHostReady : ∀ ready design,
    inputs (HostPins.driveHostReady ready design) = { inputs design with ready }
  initialise : ∀ seed design, inputs (Design.initialise seed design) = inputs design
  driveChannel : ∀ channel presented design,
    inputs (Design.driveChannel channel presented design) = inputs design
  settle : ∀ reset design, inputs (Design.settle reset design).2 = inputs design
  commit : ∀ reset design, inputs (Design.commit reset design) = inputs design
  dump : ∀ cycle design sink, inputs (Design.dump cycle design sink).2.1 = inputs design

/-- The host inputs after a call, which are driven by two kinds of calls only. -/
def Host.Inputs.after (call : Call) (inputs : Host.Inputs) : Host.Inputs :=
  match call with
  | .driveHostIn valid word => { inputs with valid, word }
  | .driveHostReady ready => { inputs with ready }
  | _ => inputs

/-- What is on the host inputs after several calls. -/
def Host.Inputs.afterAll (calls : List Call) (inputs : Host.Inputs) : Host.Inputs :=
  calls.foldl (fun inputs call => inputs.after call) inputs

variable {D H M : Type} [Design D] [Host H] [Memory M]

/-- A call leaves on the inputs what it drives, and else what was there. -/
theorem HeldInputs.inputs_of_does (held : HeldInputs D) {call : Call}
    {before after : Parties D H M} (does : call.Does before after) :
    held.inputs after.design = (held.inputs before.design).after call := by
  cases call with
  | initialise seed =>
    cases does
    exact held.initialise seed _
  | driveChannel channel presented =>
    cases does
    exact held.driveChannel channel presented _
  | settle reset fault =>
    -- The design is handed back beside what it found.
    obtain ⟨design, settled, rfl⟩ := does
    have kept := held.settle reset before.design
    rw [settled] at kept
    exact kept
  | commit reset =>
    cases does
    exact held.commit reset _
  | driveHostIn valid word =>
    cases does
    exact held.driveHostIn valid word _
  | driveHostReady ready =>
    cases does
    exact held.driveHostReady ready _
  | dump cycle fault =>
    obtain ⟨sink, design, written, dumped, rfl⟩ := does
    have kept := held.dump cycle before.design sink
    rw [dumped] at kept
    exact kept
  -- The other calls go to the memories or the host, or leave the design as it is.
  | tick channel offers =>
    cases does
    rfl
  | receive size answer =>
    obtain ⟨host, _, rfl⟩ := does
    rfl
  | send bytes =>
    cases does
    rfl
  | print fault =>
    obtain ⟨_, _, _, rfl⟩ := does
    rfl
  | stop =>
    cases does
    rfl
  | finished answer =>
    obtain ⟨_, rfl⟩ := does
    rfl
  | status answer =>
    obtain ⟨_, rfl⟩ := does
    rfl

/-- After several calls, there is on the inputs what was driven last. -/
theorem HeldInputs.inputs_of_performed (held : HeldInputs D) {calls : List Call}
    {before after : Parties D H M} (performed : Performed calls before after) :
    held.inputs after.design = (held.inputs before.design).afterAll calls := by
  -- The inputs after the first call are where the other calls start from.
  induction performed with
  | none _ => rfl
  | call does _ ih =>
    rw [ih, held.inputs_of_does does]
    rfl

end Testbench
