import Testbench.Fault.Setup

/-! Why a run ended, and the exit status that says so. -/

namespace Testbench

/-- Why a run ended. -/
inductive Ending where
  /-- The host finished and was satisfied. -/
  | completed
  /-- The host finished with a status of its own. -/
  | hostFailed (status : Int32)
  /-- The design found itself inconsistent. -/
  | evaluationFailed
  /-- The cycle limit was reached before the host finished. -/
  | timedOut
  deriving DecidableEq, Inhabited

/-- The exit status of an ending. -/
def Ending.exitStatus : Ending → Int32
  | .completed => successStatus
  | .hostFailed status => status
  | .evaluationFailed => evaluationStatus
  | .timedOut => timeoutStatus

/-- Every ending but completion is a failure. -/
def Ending.isFailure : Ending → Bool
  | .completed => false
  | _ => true

/-- The words for an ending. -/
def Ending.text : Ending → String
  | .completed => "completed"
  | .hostFailed status => s!"code = {status.toInt}"
  | .evaluationFailed => "evaluation error"
  | .timedOut => "timeout"

end Testbench
