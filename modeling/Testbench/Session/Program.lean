import Testbench.Session.Launch

/-! The program around a design: arguments in, exit status out. -/

namespace Testbench

variable {D H : Type}

/-- Writes the last line of a session to standard error. -/
def Outcome.conclude (asked : Bool) (outcome : Outcome D H) : Outcome D H :=
  let (crash?, remarks, diagnostics) :=
    outcome.verdict.report asked outcome.surroundings.diagnostics
  { outcome with
    surroundings := { outcome.surroundings with diagnostics }
    journal := outcome.journal.remarkAll remarks
    crash? }

/-- The exit status of a program, unless it was given up or has broken off. -/
def Outcome.exitStatus? (outcome : Outcome D H) : Option Int32 :=
  -- A program that cannot explain itself does not get as far as to its exit status.
  outcome.crash?.elim outcome.verdict.exitStatus? fun _ => none

/-- Puts remarks in front of those of a session. -/
def Outcome.precede (remarks : List Remark) (outcome : Outcome D H) : Outcome D H :=
  let journal := outcome.journal
  -- The latest remark comes first, so earlier ones go behind the others.
  { outcome with journal := { journal with remarks := journal.remarks ++ remarks.reverse } }

/--
The program for a design with ideal memory: reads its arguments, runs, and tells how it went.

The given seed is used when the arguments name none.
-/
def Session.runProgram [Design D] [Host H] (arguments : List String) (seed : UInt32)
    (schedule : Schedule) (around : Surroundings) (design : D) (host : H) : Outcome D H :=
  let (parsed, remarks) := Options.ofArguments arguments seed
  match parsed with
  | .error fault =>
    -- Nothing was touched yet, so everything is left as it was given.
    let outcome : Outcome D H := { verdict := .misused fault, design, host, surroundings := around }
    (outcome.precede remarks).conclude false
  | .ok options =>
    let outcome := launch options Memory.idealFactory schedule around design host
    (outcome.precede remarks).conclude options.wantsReport

end Testbench
