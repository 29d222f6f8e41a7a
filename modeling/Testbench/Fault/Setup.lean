import Testbench.Fault.System
import Testbench.Text.Hexadecimal
import Testbench.Text.Quoted

/-! Everything that can keep a run from reaching its first cycle, and the exit statuses. -/

namespace Testbench

/-- What is wrong with a line of a memory image. -/
inductive LineFault where
  /-- The digits, counted in bytes, do not pair up. -/
  | oddDigits (count : Nat)
  /-- Two bytes of the line are not two hexadecimal digits. -/
  | notDigits (pair : List Char)
  deriving DecidableEq, Inhabited

/-- The reason given for refusing a line. -/
def LineFault.reason : LineFault → String
  | .oddDigits count => s!"odd number of hex digits ({count})"
  | .notDigits pair => "invalid hex digits " ++ Text.quoteChars pair

/-- A failure before the first cycle. -/
inductive SetupFault where
  /-- The memory asked for cannot be had. -/
  | allocation (bytes mebibytes : UInt64)
  /-- No memory with realistic timing can be built. -/
  | noTimedMemory
  | imageUnread (path : String) (cause : SystemFault)
  /-- A line of the image, counted from one, is malformed. -/
  | imageMalformed (line : Nat) (reason : String)
  /-- A byte of the image lies behind the end of the memory meant for it. -/
  | imageOutOfRange (offset : Nat)
  /-- Frames of this many bits cannot be carried. -/
  | hostWidth (bits : UInt32)
  | channelMismatch (expected actual : Nat)
  | traceUnopened (path : String) (cause : SystemFault)
  /-- The host clock showed too few edges while the design was in reset. -/
  | resetTimeout (cycles : Nat)
  | resetEvaluation (fault : EvaluationFault)
  deriving DecidableEq, Inhabited

/-- The explanation printed for a failure. -/
def SetupFault.message : SetupFault → String
  | .allocation bytes mebibytes =>
    s!"Failed to allocate {bytes.toNat} bytes ({mebibytes.toNat} MiB) of memory\n" ++
      "Set smaller amount of memory using +memsize=<N> (in MiB)"
  | .noTimedMemory => "memory timing model is not available; run without +dramsim"
  | .imageUnread path cause => s!"could not read memory image {path}: " ++ cause.message
  | .imageMalformed line reason => s!"memory image line {line}: {reason}"
  | .imageOutOfRange offset =>
    "memory image byte at offset " ++ Text.hexadecimal offset ++ " exceeds backing capacity"
  | .hostWidth bits =>
    s!"host frame width of {bits.toNat} bits must be a whole number of bytes" ++
      " no wider than 64 bits"
  | .channelMismatch expected actual =>
    s!"DUT exposes {expected} memory channels but {actual} backends were supplied"
  | .traceUnopened path cause => s!"could not open trace output {path}: " ++ cause.message
  | .resetTimeout cycles => s!"host clock edge not observed within {cycles} reset cycles"
  | .resetEvaluation fault => "evaluation failed during reset: " ++ fault.message

/-- The words of the failure underneath, for the failures that have one. -/
def SetupFault.underlying? : SetupFault → Option String
  | .imageUnread _ cause => some cause.message
  | .traceUnopened _ cause => some cause.message
  | .resetEvaluation fault => some fault.message
  | _ => none

/-- The run finished and the host was satisfied. -/
def successStatus : Int32 := 0

/-- The design reported an inconsistency. -/
def evaluationStatus : Int32 := 1

/-- The cycle limit was reached first. -/
def timeoutStatus : Int32 := 2

/-- The run never started. -/
def setupStatus : Int32 := -1

/-- An inconsistency keeps its own status even in reset, and every other setup failure is alike. -/
def SetupFault.exitStatus : SetupFault → Int32
  | .resetEvaluation _ => evaluationStatus
  | _ => setupStatus

end Testbench
