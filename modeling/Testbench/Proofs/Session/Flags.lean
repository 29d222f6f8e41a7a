import Mathlib.Data.Fintype.Basic
import Testbench.Proofs.Text.Decimal
import Testbench.Session.Options

/-! The settings of a session, the flags they are written with, and what their values say. -/

namespace Testbench.Options

/-- What an argument can set. -/
inductive Setting where
  | trace
  | seed
  | mebibytes
  | cycleLimit
  | traceStart
  | image
  | memory
  | verbose
  | reportCycles
  deriving DecidableEq

/-- How a setting is written. -/
inductive Form where
  /-- The flag is the whole argument. -/
  | switch
  /-- A text follows on the flag. -/
  | text
  /-- A number that fits some bits follows on the flag. -/
  | number (bits : Nat)

namespace Setting

instance : Fintype Setting where
  elems := {trace, seed, mebibytes, cycleLimit, traceStart, image, memory, verbose, reportCycles}
  complete setting := by cases setting <;> decide

/-- The flag of a setting, which every argument for it begins with. -/
def flag : Setting → String
  | trace => "-v"
  | seed => "-s"
  | mebibytes => "+memsize="
  | cycleLimit => "+max-cycles="
  | traceStart => "+start="
  | image => "+loadmem="
  | memory => "+dramsim"
  | verbose => "+verbose"
  | reportCycles => "+cycle-count"

/-- The name of a setting in explanations, which has no equals sign. -/
def name : Setting → String
  | mebibytes => "+memsize"
  | cycleLimit => "+max-cycles"
  | traceStart => "+start"
  | image => "+loadmem"
  -- The flags of other settings have none either.
  | setting => setting.flag

/-- How a setting is written. -/
def form : Setting → Form
  | trace | image => .text
  | seed => .number 32
  | mebibytes | cycleLimit | traceStart => .number 64
  | memory | verbose | reportCycles => .switch

/-- An argument is for a setting: it is the switch, or it begins with the flag. -/
def Asks (setting : Setting) (text : String) : Prop :=
  match setting.form with
  -- With anything behind it, the flag of a switch is no switch.
  | .switch => text = setting.flag
  | _ => setting.flag.toList <+: text.toList

instance (setting : Setting) (text : String) : Decidable (setting.Asks text) :=
  match written : setting.form with
  | .switch => decidable_of_iff (text = setting.flag) (by rw [Asks, written])
  | .text => decidable_of_iff (setting.flag.toList <+: text.toList) (by rw [Asks, written])
  | .number _ => decidable_of_iff (setting.flag.toList <+: text.toList) (by rw [Asks, written])

/-- A value behind the flag of a setting that cannot be used, and what is wrong with it. -/
inductive Refuses (setting : Setting) : String → OptionFault → Prop
  | missing (valued : setting.form ≠ .switch) : Refuses setting "" (.missingValue setting.name)
  | invalid {bits : Nat} {value : String} (numeric : setting.form = .number bits)
    (present : value ≠ "") (unread : ∀ number, ¬ Text.Denotes bits value number) :
    Refuses setting value (.invalidValue setting.name value)

/-- The type of the values of a setting. -/
def Value : Setting → Type
  | trace => Option TraceTarget
  | seed => UInt32
  | mebibytes | cycleLimit => Option UInt64
  | traceStart => UInt64
  | image => Option String
  | memory => MemoryKind
  | verbose | reportCycles => Bool

/-- A setting is as the text behind its flag says. -/
def Says (text : String) : (setting : Setting) → setting.Value → Prop
  -- A dash is no path, but stands for the output.
  | trace, target => target = some (if text = "-" then .output else .file text)
  | seed, (number : UInt32) => Text.Denotes 32 text number.toNat
  | mebibytes, size => ∃ number : UInt64, size = some number ∧ Text.Denotes 64 text number.toNat
  | cycleLimit, limit => ∃ number : UInt64, limit = some number ∧ Text.Denotes 64 text number.toNat
  | traceStart, (number : UInt64) => Text.Denotes 64 text number.toNat
  | image, path => path = some text
  | memory, kind => kind = MemoryKind.timed
  | verbose, on => on = true
  | reportCycles, on => on = true

end Setting

/-- The value that options give to a setting. -/
def get (options : Options) : (setting : Setting) → setting.Value
  | .trace => options.trace
  | .seed => options.seed
  | .mebibytes => options.mebibytes
  | .cycleLimit => options.cycleLimit
  | .traceStart => options.traceStart
  | .image => options.image
  | .memory => options.memory
  | .verbose => options.verbose
  | .reportCycles => options.reportCycles

/-- An argument that cannot be used, and what is wrong with it. -/
def Malformed (text : String) (fault : OptionFault) : Prop :=
  ∃ (setting : Setting) (value : String),
    text = setting.flag ++ value ∧ setting.Refuses value fault

/-- An argument that can be used. -/
def Usable (text : String) : Prop :=
  ∀ fault, ¬ Malformed text fault

/-- An argument for the host, as it is for no setting. -/
def Unrecognised (text : String) : Prop :=
  ∀ setting : Setting, ¬ setting.Asks text

instance (text : String) : Decidable (Unrecognised text) :=
  inferInstanceAs (Decidable (∀ setting : Setting, ¬ setting.Asks text))

/-- Options are the same if they give the same value to every setting. -/
theorem ext_get {options other : Options}
    (same : ∀ setting, options.get setting = other.get setting) : options = other := by
  -- Each field is the value of one setting.
  cases options
  cases other
  simp only [Options.mk.injEq]
  exact ⟨same .trace, same .mebibytes, same .seed, same .memory, same .verbose, same .cycleLimit,
    same .image, same .traceStart, same .reportCycles⟩

namespace Setting

/-- No flag begins another one. -/
theorem eq_of_flag_begins {setting other : Setting}
    (begins : setting.flag.toList <+: other.flag.toList) : setting = other := by
  -- All pairs of flags are compared.
  revert setting other
  decide

/-- An argument for a setting begins with its flag. -/
theorem Asks.begins {setting : Setting} {text : String} (asks : setting.Asks text) :
    setting.flag.toList <+: text.toList := by
  unfold Asks at asks
  -- A switch is the whole text, and any other flag a prefix of it.
  split at asks
  · rw [asks]
  · exact asks

/-- An argument for a setting is its flag with some value. -/
theorem Asks.exists_value {setting : Setting} {text : String} (asks : setting.Asks text) :
    ∃ value, text = setting.flag ++ value := by
  obtain ⟨rest, split⟩ := asks.begins
  -- What stands behind the flag is the value.
  refine ⟨String.ofList rest, String.toList_inj.mp ?_⟩
  rw [String.toList_append, String.toList_ofList, split]

/-- An argument is for one setting at most. -/
theorem Asks.unique {setting other : Setting} {text : String} (first : setting.Asks text)
    (second : other.Asks text) : setting = other := by
  -- Of two beginnings of a text, the shorter one begins the longer one.
  rcases List.prefix_or_prefix_of_prefix first.begins second.begins with begins | begins
  · exact eq_of_flag_begins begins
  · exact (eq_of_flag_begins begins).symm

/-- A flag with a value behind it asks for its setting. -/
theorem asks_of_valued {setting : Setting} (valued : setting.form ≠ .switch) (value : String) :
    setting.Asks (setting.flag ++ value) := by
  have begins : setting.flag.toList <+: (setting.flag ++ value).toList := by
    rw [String.toList_append]
    exact List.prefix_append _ _
  -- What stands behind the flag only matters to a switch.
  unfold Asks
  split
  · rename_i switch
    exact absurd switch valued
  · exact begins

/-- A flag that is a switch asks for its setting. -/
theorem asks_of_switch {setting : Setting} (switch : setting.form = .switch) :
    setting.Asks setting.flag := by
  rw [Asks, switch]

/-- Only a value can be refused, and a switch has none. -/
theorem Refuses.valued {setting : Setting} {value : String} {fault : OptionFault}
    (refuses : setting.Refuses value fault) : setting.form ≠ .switch := by
  -- Missing means that the form has a value, and invalid that it is a number.
  cases refuses with
  | missing valued => exact valued
  | invalid numeric =>
    rw [numeric]
    nofun

/-- A flag with a value that is refused asks for its setting. -/
theorem Refuses.asks {setting : Setting} {value : String} {fault : OptionFault}
    (refuses : setting.Refuses value fault) : setting.Asks (setting.flag ++ value) :=
  setting.asks_of_valued refuses.valued value

/-- No text but none is refused behind the flag of a text. -/
theorem refuses_iff_of_text {setting : Setting} {value : String} {fault : OptionFault}
    (textual : setting.form = .text) :
    setting.Refuses value fault ↔ value = "" ∧ fault = .missingValue setting.name := by
  constructor
  · intro refuses
    -- A text is not numeric, so only its absence can be refused.
    cases refuses with
    | missing => exact ⟨rfl, rfl⟩
    | invalid numeric =>
      rw [textual] at numeric
      cases numeric
  · rintro ⟨rfl, rfl⟩
    exact .missing (by rw [textual]; nofun)

/-- A value behind the flag of a number is refused if it is missing, or denotes no such number. -/
theorem refuses_iff_of_number {setting : Setting} {bits : Nat} {value : String}
    {fault : OptionFault} (numeric : setting.form = .number bits) :
    setting.Refuses value fault ↔
      value = "" ∧ fault = .missingValue setting.name ∨
        value ≠ "" ∧ (∀ number, ¬ Text.Denotes bits value number) ∧
          fault = .invalidValue setting.name value := by
  constructor
  · intro refuses
    cases refuses with
    | missing => exact .inl ⟨rfl, rfl⟩
    | invalid alike present unread =>
      -- The width is that of the setting.
      rw [numeric] at alike
      cases alike
      exact .inr ⟨present, unread, rfl⟩
  · rintro (⟨rfl, rfl⟩ | ⟨present, unread, rfl⟩)
    · exact .missing (by rw [numeric]; nofun)
    · exact .invalid numeric present unread

/-- A text says one thing about a setting at most. -/
theorem Says.unique {text : String} {setting : Setting} {value other : setting.Value}
    (first : setting.Says text value) (second : setting.Says text other) : value = other := by
  cases setting with
  -- These are equal to what the text says, and the numbers have to be compared first.
  | trace | image | memory | verbose | reportCycles => exact Eq.trans first (Eq.symm second)
  | seed => exact UInt32.toNat_inj.mp (Text.Denotes.unique first second)
  | traceStart => exact UInt64.toNat_inj.mp (Text.Denotes.unique first second)
  | mebibytes | cycleLimit =>
    obtain ⟨number, rfl, denotes⟩ := first
    obtain ⟨another, rfl, alike⟩ := second
    exact congrArg some (UInt64.toNat_inj.mp (denotes.unique alike))

end Setting

end Testbench.Options
