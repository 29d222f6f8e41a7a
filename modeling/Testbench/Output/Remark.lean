import Testbench.Bench.Ending
import Testbench.Bus.Geometry
import Testbench.Text.Quoted

/-! The remarks made along the way, from serious ones to chatter. -/

namespace Testbench

/-- How serious a remark is. -/
inductive Level where
  | error
  | warn
  | info
  | debug
  | trace
  deriving DecidableEq, Inhabited

/-- Something worth telling about a run. -/
inductive Remark where
  /-- The last beat of a write burst did not say that it was the last. -/
  | unmarkedLastBeat (id : UInt64)
  /-- A design withdrew or changed offers that had not been accepted. -/
  | offersChanged (channel count : Nat)
  /-- The first request of a channel below the memory's base. -/
  | belowBase (channel : Nat) (address base : UInt64)
  | evaluationFailed (cycle : UInt64) (fault : EvaluationFault)
  | evaluationUnreported (cause : SystemFault)
  | printFailed (cause : SystemFault)
  | noticeFailed (cause : SystemFault)
  /-- Tracing stops for good once a record could not be written. -/
  | traceFailed (cause : SystemFault)
  | traceUnflushed (cause : SystemFault)
  | noticesUnflushed (cause : SystemFault)
  | statusUnwritten (cause : SystemFault)
  | startMarker (cycle : UInt64)
  | stopMarker (cycles : UInt64)
  | stopForwarded
  | runFinished (ending : Ending) (cycles : UInt64)
  | resetReleased (cycles : Nat)
  | allocated (count : Nat) (kind : MemoryKind) (bytes : UInt64)
  | preloaded (bytes : Nat) (path : String)
  | argumentLeft (argument : String)
  | frameReceived (word : UInt64)
  | frameSent (word : UInt64)
  deriving DecidableEq, Inhabited

/-- The level of a remark. -/
def Remark.level : Remark → Level
  | .evaluationFailed .. | .traceFailed _ | .traceUnflushed _ => .error
  | .unmarkedLastBeat _ | .offersChanged .. | .belowBase .. | .evaluationUnreported _
  | .printFailed _ | .noticeFailed _ | .noticesUnflushed _ | .statusUnwritten _ => .warn
  | .startMarker _ | .stopMarker _ | .stopForwarded | .runFinished .. => .info
  | .resetReleased _ | .allocated .. | .preloaded .. | .argumentLeft _ => .debug
  | .frameReceived _ | .frameSent _ => .trace

/-- The words of a remark. -/
def Remark.message : Remark → String
  | .unmarkedLastBeat id => s!"write burst {id.toNat} completed without last flag"
  | .offersChanged channel count =>
    s!"channel {channel}: DUT changed {count} request(s) before acceptance"
  | .belowBase channel address base =>
    s!"channel {channel}: request to " ++ Text.hexadecimal address.toNat ++
      " is below memory base " ++ Text.hexadecimal base.toNat
  | .evaluationFailed cycle fault =>
    s!"DUT evaluation failed at cycle {cycle.toNat}: " ++ fault.message
  | .evaluationUnreported cause => "failed to report evaluation error: " ++ cause.message
  | .printFailed cause => "diagnostic print failed: " ++ cause.message
  | .noticeFailed cause => "failed to write benchmark notice: " ++ cause.message
  | .traceFailed cause => "trace output failed, disabling trace: " ++ cause.message
  | .traceUnflushed cause => "failed to flush trace output: " ++ cause.message
  | .noticesUnflushed cause => "failed to flush benchmark notices: " ++ cause.message
  | .statusUnwritten cause => "could not write final status: " ++ cause.message
  | .startMarker cycle => s!"start marker at cycle {cycle.toNat}"
  | .stopMarker cycles => s!"stop marker, benchmark took {cycles.toNat} cycles"
  | .stopForwarded => "stop requested, asking host transport to finish"
  | .runFinished ending cycles => s!"run finished: {ending.text} after {cycles.toNat} cycles"
  | .resetReleased cycles => s!"reset released after {cycles} cycles"
  | .allocated count kind bytes =>
    s!"allocated {count} {kind.label} backend(s) of {bytes.toNat} bytes"
  | .preloaded bytes path => s!"preloaded {bytes} bytes from {path}"
  | .argumentLeft argument =>
    "leaving argument " ++ Text.quoted argument ++ " to the host transport"
  | .frameReceived word => "host -> target " ++ Text.hexadecimalWord word
  | .frameSent word => "target -> host " ++ Text.hexadecimalWord word

end Testbench
