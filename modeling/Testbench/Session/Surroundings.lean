import Testbench.Bench.Basic
import Testbench.Session.Files
import Testbench.Session.Options
import Testbench.Text.Utf8

/-! The files and streams around a session, and the trace that it opens among them. -/

namespace Testbench

/-- What a session finds around it, and leaves behind changed. -/
structure Surroundings where
  files : Files := {}
  /-- Standard output. -/
  output : Sink := {}
  /-- Standard error. -/
  diagnostics : Sink := {}

namespace Surroundings

/-- The sinks of a bench that writes to the standard streams, with no trace of its own. -/
def sinks (around : Surroundings) : Sinks :=
  { notices := around.output, diagnostics := around.diagnostics }

/--
Opens a trace among the sinks of a bench.

A trace file is made empty at once, but its text stays in a buffer until the session is over.
-/
def openTrace (target : Option TraceTarget) (around : Surroundings) :
    Option SetupFault × Sinks × Files :=
  match target with
  | none => (none, around.sinks, around.files)
  | some .output =>
    let (cause, output) := Trace.writeHeader around.output
    (cause.map fun cause => .traceUnopened "-" cause,
      { around.sinks with notices := output }, around.files)
  | some (.file path) =>
    match around.files.write path [] with
    | .error cause => (some (.traceUnopened path cause), around.sinks, around.files)
    | .ok emptied =>
      -- The buffer takes the header whatever becomes of the file.
      let (_, buffer) := Trace.writeHeader {}
      (none, { around.sinks with trace := some buffer }, emptied)

/-- Writes a buffered trace into its file. -/
def saveTrace (target : Option TraceTarget) (sinks : Sinks) (files : Files) : Files :=
  match target, sinks.trace with
  | some (.file path), some buffer =>
    match files.write path (Text.encode buffer.text.toList) with
    | .ok written => written
    | .error _ => files
  | _, _ => files

/-- What is left around a session when its sinks are closed. -/
def closing (target : Option TraceTarget) (sinks : Sinks) (files : Files) : Surroundings where
  files := saveTrace target sinks files
  output := sinks.notices
  diagnostics := sinks.diagnostics

end Surroundings

end Testbench
