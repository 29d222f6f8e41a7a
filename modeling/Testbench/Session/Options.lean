import Testbench.Bench.Basic
import Testbench.Output.Remark
import Testbench.Text.Decimal
import Testbench.Text.Quoted

/-! The options of a session, as given on the command line. -/

namespace Testbench

/-- What is wrong with an argument. -/
inductive OptionFault where
  /-- A flag needs a value and has none. -/
  | missingValue (flag : String)
  /-- The value of a flag is no number that the flag can take. -/
  | invalidValue (flag value : String)
  deriving DecidableEq, Inhabited

/-- The explanation printed for an unusable argument. -/
def OptionFault.message : OptionFault → String
  | .missingValue flag => s!"missing value for {flag}"
  | .invalidValue flag value => "invalid value " ++ Text.quoted value ++ s!" for {flag}"

/-- Where a trace goes. -/
inductive TraceTarget where
  /-- Between the notices on standard output. -/
  | output
  /-- Into a file of its own. -/
  | file (path : String)
  deriving DecidableEq, Inhabited

/-- The options of a session. -/
structure Options where
  trace : Option TraceTarget := none
  /-- The memory asked for; the design's own size when none is. -/
  mebibytes : Option UInt64 := none
  seed : UInt32
  memory : MemoryKind := .ideal
  verbose : Bool := false
  cycleLimit : Option UInt64 := none
  /-- The memory image to preload. -/
  image : Option String := none
  traceStart : UInt64 := 0
  /-- Report the cycles of a completed run. -/
  reportCycles : Bool := false
  deriving DecidableEq, Inhabited

/-- The settings of the run that the options ask for. -/
def Options.settings (options : Options) : Settings where
  cycleLimit := options.cycleLimit.getD lastCycle
  traceStart := options.traceStart
  verbose := options.verbose
  seed := options.seed

/-- A completed run tells its cycles when the session is verbose or asks for them. -/
def Options.wantsReport (options : Options) : Bool :=
  options.verbose || options.reportCycles

/-- What one argument asks for. -/
inductive Argument where
  | trace (target : TraceTarget)
  | seed (value : UInt32)
  | mebibytes (value : UInt64)
  | cycleLimit (value : UInt64)
  | traceStart (value : UInt64)
  | image (path : String)
  | timedMemory
  | verbose
  | reportCycles
  /-- An argument meant for the host. -/
  | left (text : String)
  deriving DecidableEq, Inhabited

namespace Argument

/-- Reads the number behind a flag, which has to fit the given bits. -/
def readNumber (flag : String) (bits : Nat) (value : String) : Except OptionFault Nat :=
  if value = "" then .error (.missingValue flag)
  else
    match Text.readUnsigned? bits value with
    | none => .error (.invalidValue flag value)
    | some number => .ok number

/-- Reads the target behind a trace flag. -/
def readTarget (value : String) : Except OptionFault TraceTarget :=
  if value = "" then .error (.missingValue "-v")
  else if value = "-" then .ok .output
  else .ok (.file value)

/-- Reads the path behind an image flag. -/
def readPath (value : String) : Except OptionFault String :=
  if value = "" then .error (.missingValue "+loadmem") else .ok value

/-- Reads an argument that consists of a flag only. -/
def readSwitch (text : String) : Argument :=
  if text = "+dramsim" then .timedMemory
  else if text = "+verbose" then .verbose
  else if text = "+cycle-count" then .reportCycles
  else .left text

/-- The rest of a text behind a flag at its start. -/
def behind? (flag text : String) : Option String :=
  (flag.toList.isPrefixOf? text.toList).map String.ofList

/-- The flags that carry a value, each with the reader of that value. -/
def valuedFlags : List (String × (String → Except OptionFault Argument)) :=
  [("-v", fun value => (readTarget value).map .trace),
    ("-s", fun value => (readNumber "-s" 32 value).map fun n => .seed (UInt32.ofNat n)),
    ("+memsize=", fun value =>
      (readNumber "+memsize" 64 value).map fun n => .mebibytes (UInt64.ofNat n)),
    ("+max-cycles=", fun value =>
      (readNumber "+max-cycles" 64 value).map fun n => .cycleLimit (UInt64.ofNat n)),
    ("+start=", fun value =>
      (readNumber "+start" 64 value).map fun n => .traceStart (UInt64.ofNat n)),
    ("+loadmem=", fun value => (readPath value).map .image)]

/-- Reads one argument: a flag with its value, or else a switch. -/
def read (text : String) : Except OptionFault Argument :=
  -- No two of these flags begin the same text, so their order is immaterial.
  let valued := valuedFlags.findSome? fun (flag, reader) => (behind? flag text).map reader
  valued.getD (.ok (readSwitch text))

/-- The remark made about an argument. -/
def remarks : Argument → List Remark
  | .left text => [.argumentLeft text]
  | _ => []

end Argument

/-- The options after one more argument. -/
def Options.add (options : Options) : Argument → Options
  | .trace target => { options with trace := some target }
  | .seed value => { options with seed := value }
  | .mebibytes value => { options with mebibytes := some value }
  | .cycleLimit value => { options with cycleLimit := some value }
  | .traceStart value => { options with traceStart := value }
  | .image path => { options with image := some path }
  | .timedMemory => { options with memory := .timed }
  | .verbose => { options with verbose := true }
  | .reportCycles => { options with reportCycles := true }
  | .left _ => options

/-- Reads arguments from the left up to the first that cannot be used, with the remarks on them. -/
def Options.addAll (options : Options) : List String → Except OptionFault Options × List Remark
  | [] => (.ok options, [])
  | text :: rest =>
    match Argument.read text with
    | .error fault => (.error fault, [])
    | .ok argument =>
      -- A later argument replaces what an earlier one set.
      let (result, remarks) := (options.add argument).addAll rest
      (result, argument.remarks ++ remarks)

/-- The options given by arguments, with a seed for the case that they give none. -/
def Options.ofArguments (arguments : List String) (seed : UInt32) :
    Except OptionFault Options × List Remark :=
  ({ seed } : Options).addAll arguments

end Testbench
