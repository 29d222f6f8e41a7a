import Testbench.Fault.System

/-! Output streams, which may refuse any write or flush. -/

namespace Testbench

/-- One attempt on an output stream. -/
inductive Attempt where
  | write (text : String)
  | flush
  deriving DecidableEq, Inhabited

/-- An output stream: what was attempted on it, and the rule that answers the next attempt. -/
structure Sink where
  /-- The attempts made so far, the latest first. -/
  attempts : List Attempt := []
  /-- The fault with which an attempt is answered after the given earlier attempts, if any. -/
  answer : List Attempt → Attempt → Option SystemFault := fun _ _ => none

/-- Makes one attempt and remembers it, whatever its answer. -/
def Sink.attempt (attempt : Attempt) (sink : Sink) : Option SystemFault × Sink :=
  (sink.answer sink.attempts attempt,
    { sink with attempts := attempt :: sink.attempts })

/-- Writes a text and reports the fault, if any. -/
def Sink.write (text : String) (sink : Sink) : Option SystemFault × Sink :=
  sink.attempt (.write text)

/-- Writes a text and ends the line. -/
def Sink.writeLine (text : String) (sink : Sink) : Option SystemFault × Sink :=
  sink.write (text ++ "\n")

/-- Pushes buffered text out and reports the fault, if any. -/
def Sink.flush (sink : Sink) : Option SystemFault × Sink :=
  sink.attempt .flush

/-- The text that an attempt adds. -/
def Attempt.text : Attempt → String
  | .write text => text
  | .flush => ""

/-- The texts of all attempts in order, the refused ones too. -/
def Sink.text (sink : Sink) : String :=
  String.join (sink.attempts.reverse.map Attempt.text)

end Testbench
