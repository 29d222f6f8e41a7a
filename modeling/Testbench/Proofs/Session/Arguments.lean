import Testbench.Proofs.Session.Flags

/-! Each argument is for one setting, or cannot be used, or is left to the host. -/

namespace Testbench.Options

/-- The setting that an argument sets, if it is not left to the host. -/
def settingOf? : Argument → Option Setting
  | .trace _ => some .trace
  | .seed _ => some .seed
  | .mebibytes _ => some .mebibytes
  | .cycleLimit _ => some .cycleLimit
  | .traceStart _ => some .traceStart
  | .image _ => some .image
  | .timedMemory => some .memory
  | .verbose => some .verbose
  | .reportCycles => some .reportCycles
  | .left _ => none

/-- An argument keeps the settings that it does not set. -/
theorem get_add_of_ne {argument : Argument} {setting : Setting}
    (other : settingOf? argument ≠ some setting) (options : Options) :
    (options.add argument).get setting = options.get setting := by
  -- Each argument replaces one field of the options, which belongs to the setting that it sets.
  cases argument <;> cases setting <;> first | rfl | exact absurd rfl other

/-- An argument sets a setting to what a text says, and nothing else. -/
def Sets (setting : Setting) (text : String) (argument : Argument) : Prop :=
  settingOf? argument = some setting ∧
    ∀ options : Options, setting.Says text ((options.add argument).get setting)

/-- A reader of the texts behind the flag of a setting. -/
structure Reads (setting : Setting) (reader : String → Except OptionFault Argument) : Prop where
  refuses : ∀ value fault, reader value = .error fault ↔ setting.Refuses value fault
  sets : ∀ value argument, reader value = .ok argument → Sets setting value argument

/-- Every text but none is read by the reader of a setting that is a text. -/
theorem reads_text {setting : Setting} {reader : String → Except OptionFault Argument}
    {make : String → Argument} (textual : setting.form = .text)
    (reads : ∀ value, reader value =
      if value = "" then .error (.missingValue setting.name) else .ok (make value))
    (sets : ∀ value, Sets setting value (make value)) : Reads setting reader where
  refuses value fault := by
    -- Both the reader and the setting look for an empty value only.
    rw [reads, Setting.refuses_iff_of_text textual]
    by_cases none : value = ""
    · rw [if_pos none, Except.error.injEq]
      exact ⟨fun same => ⟨none, same.symm⟩, fun ⟨_, same⟩ => same.symm⟩
    · rw [if_neg none]
      exact ⟨nofun, fun ⟨empty, _⟩ => absurd empty none⟩
  sets value argument read := by
    rw [reads] at read
    split at read
    · cases read
    · cases read
      exact sets value

/-- The target of a trace is any text, and a dash stands for the output. -/
theorem reads_target : Reads .trace fun value => (Argument.readTarget value).map .trace := by
  let make (value : String) : Argument := .trace (if value = "-" then .output else .file value)
  have sets : ∀ value, Sets .trace value (make value) := fun _ => ⟨rfl, fun _ => rfl⟩
  refine reads_text rfl (fun value => ?_) sets
  simp only [Argument.readTarget, make]
  -- An empty text is refused in front of the dash.
  split
  · rfl
  · split <;> rfl

/-- The path of an image is any text. -/
theorem reads_path : Reads .image fun value => (Argument.readPath value).map .image := by
  have sets : ∀ value, Sets .image value (.image value) := fun _ => ⟨rfl, fun _ => rfl⟩
  refine reads_text rfl (fun value => ?_) sets
  unfold Argument.readPath
  -- Only an empty text is refused.
  split <;> rfl

/-- A number is read from the texts that denote it. -/
theorem readNumber_eq_ok_iff {flag value : String} {bits number : Nat} :
    Argument.readNumber flag bits value = .ok number ↔ Text.Denotes bits value number := by
  rw [Argument.readNumber, ← Text.readUnsigned?_eq_some_iff]
  by_cases none : value = ""
  · -- Nothing denotes no number.
    rw [if_pos none]
    refine ⟨nofun, fun read => ?_⟩
    exact absurd none (Text.readUnsigned?_eq_some_iff.mp read).ne_empty
  · rw [if_neg none]
    cases Text.readUnsigned? bits value <;> simp

/-- A text that denotes no number is refused, as missing or as invalid. -/
theorem readNumber_eq_error_iff {flag value : String} {bits : Nat} {fault : OptionFault} :
    Argument.readNumber flag bits value = .error fault ↔
      value = "" ∧ fault = .missingValue flag ∨
        value ≠ "" ∧ (∀ number, ¬ Text.Denotes bits value number) ∧
          fault = .invalidValue flag value := by
  -- A text that denotes no number is one from which none is read.
  have unread : (∀ number, ¬ Text.Denotes bits value number) ↔
      Text.readUnsigned? bits value = none := by
    simp only [← Text.readUnsigned?_eq_some_iff, Option.eq_none_iff_forall_ne_some]
  rw [Argument.readNumber, unread]
  by_cases none : value = ""
  · simp [none, eq_comm]
  · rw [if_neg none]
    cases Text.readUnsigned? bits value <;> simp [none, eq_comm]

/-- The numbers of its width are read by the reader of a setting that is a number. -/
theorem reads_number {setting : Setting} {bits : Nat} {make : Nat → Argument}
    (numeric : setting.form = .number bits)
    (sets : ∀ value number, Text.Denotes bits value number → Sets setting value (make number)) :
    Reads setting fun value => (Argument.readNumber setting.name bits value).map make where
  refuses value fault := by
    rw [Setting.refuses_iff_of_number numeric, ← readNumber_eq_error_iff]
    cases Argument.readNumber setting.name bits value <;> simp [Except.map]
  sets value argument read := by
    -- The argument is made of the number that was read.
    cases found : Argument.readNumber setting.name bits value with
    | error fault =>
      rw [found] at read
      cases read
    | ok number =>
      rw [found] at read
      cases read
      exact sets value number (readNumber_eq_ok_iff.mp found)

/-- A switch is read without a value, so that nothing is refused. -/
theorem reads_switch {setting : Setting} {argument : Argument} (switch : setting.form = .switch)
    (sets : ∀ value, Sets setting value argument) : Reads setting fun _ => .ok argument where
  -- There is no value that could be missing or invalid.
  refuses value fault := ⟨nofun, fun refuses => absurd switch refuses.valued⟩
  sets value other read := by
    cases read
    exact sets value

/-- Every flag in the table belongs to a setting with a value, and stands beside its reader. -/
theorem exists_reads_of_mem {flag : String} {reader : String → Except OptionFault Argument}
    (entry : (flag, reader) ∈ Argument.valuedFlags) :
    ∃ setting : Setting, setting.flag = flag ∧ setting.form ≠ .switch ∧ Reads setting reader := by
  simp only [Argument.valuedFlags, List.mem_cons, Prod.mk.injEq, List.not_mem_nil, or_false]
    at entry
  -- The entries are taken in the order of the table.
  rcases entry with ⟨rfl, rfl⟩ | ⟨rfl, rfl⟩ | ⟨rfl, rfl⟩ | ⟨rfl, rfl⟩ | ⟨rfl, rfl⟩ | ⟨rfl, rfl⟩
  · exact ⟨.trace, rfl, nofun, reads_target⟩
  · refine ⟨.seed, rfl, nofun, reads_number rfl fun _ _ denotes => ⟨rfl, fun _ => ?_⟩⟩
    exact denotes.toUInt32
  · refine ⟨.mebibytes, rfl, nofun, reads_number rfl fun _ _ denotes => ⟨rfl, fun _ => ?_⟩⟩
    exact ⟨_, rfl, denotes.toUInt64⟩
  · refine ⟨.cycleLimit, rfl, nofun, reads_number rfl fun _ _ denotes => ⟨rfl, fun _ => ?_⟩⟩
    exact ⟨_, rfl, denotes.toUInt64⟩
  · refine ⟨.traceStart, rfl, nofun, reads_number rfl fun _ _ denotes => ⟨rfl, fun _ => ?_⟩⟩
    exact denotes.toUInt64
  · exact ⟨.image, rfl, nofun, reads_path⟩

/-- The flags of all settings with a value are in the table. -/
theorem flag_mem_of_valued {setting : Setting} (valued : setting.form ≠ .switch) :
    setting.flag ∈ Argument.valuedFlags.map Prod.fst := by
  -- The table is small enough to look each of the flags up.
  cases setting with
  | trace | seed | mebibytes | cycleLimit | traceStart | image => decide
  | memory | verbose | reportCycles => exact absurd rfl valued

/-- A value stands behind a flag exactly if the text is the flag and the value. -/
theorem behind?_eq_some_iff {flag text value : String} :
    Argument.behind? flag text = some value ↔ text = flag ++ value := by
  rw [Argument.behind?, Option.map_eq_some_iff, ← String.toList_inj, String.toList_append]
  simp only [List.isPrefixOf?_eq_some_iff_append_eq]
  -- Both directions split the characters of the text behind those of the flag.
  constructor
  · rintro ⟨rest, split, rfl⟩
    rw [String.toList_ofList, split]
  · intro split
    exact ⟨value.toList, split.symm, String.ofList_toList⟩

/-- What reading an argument comes to. -/
inductive Reading (text : String) : Except OptionFault Argument → Prop
  /-- The value behind the flag of a setting is read by a reader for the setting. -/
  | asked {setting : Setting} {value : String} {reader : String → Except OptionFault Argument}
    (asks : setting.Asks text) (written : text = setting.flag ++ value)
    (reads : Reads setting reader) : Reading text (reader value)
  | left (unrecognised : Unrecognised text) : Reading text (.ok (.left text))

/-- A switch is read as the argument for its setting. -/
theorem Reading.of_switch {text : String} {setting : Setting} {argument : Argument}
    (sets : ∀ value, Sets setting value argument) (switch : setting.form = .switch)
    (same : text = setting.flag) : Reading text (.ok argument) := by
  have asks : setting.Asks text := by
    rw [same]
    exact setting.asks_of_switch switch
  -- The flag of a switch is the whole text, so the value behind it is empty.
  have written : text = setting.flag ++ "" := by rw [same, String.append_empty]
  exact .asked asks written (reads_switch switch sets)

/-- A text that begins with no flag of a value is a switch, or left to the host. -/
theorem reading_readSwitch {text : String}
    (unvalued : ∀ setting : Setting, setting.form ≠ .switch → ¬ setting.Asks text) :
    Reading text (.ok (Argument.readSwitch text)) := by
  have memory (value : String) : Sets .memory value .timedMemory := ⟨rfl, fun _ => rfl⟩
  have verbose (value : String) : Sets .verbose value .verbose := ⟨rfl, fun _ => rfl⟩
  have reports (value : String) : Sets .reportCycles value .reportCycles := ⟨rfl, fun _ => rfl⟩
  -- The three switches are tried in turn.
  unfold Argument.readSwitch
  split
  · rename_i same
    exact .of_switch memory rfl same
  · rename_i noMemory
    split
    · rename_i same
      exact .of_switch verbose rfl same
    · rename_i notVerbose
      split
      · rename_i same
        exact .of_switch reports rfl same
      · rename_i noReport
        -- The text is none of the switches, and it begins with no other flag.
        refine .left fun setting asks => ?_
        cases setting with
        | memory => exact noMemory asks
        | verbose => exact notVerbose asks
        | reportCycles => exact noReport asks
        | trace | seed | mebibytes | cycleLimit | traceStart | image =>
          refine unvalued _ ?_ asks
          nofun

/-- Reading an argument comes to one of these. -/
theorem reading_read (text : String) : Reading text (Argument.read text) := by
  have looked : Argument.read text = (Argument.valuedFlags.findSome? fun entry =>
      (Argument.behind? entry.1 text).map entry.2).getD (.ok (Argument.readSwitch text)) := rfl
  rw [looked]
  cases found : Argument.valuedFlags.findSome? fun entry =>
      (Argument.behind? entry.1 text).map entry.2 with
  | none =>
    refine reading_readSwitch fun setting valued asks => ?_
    -- The flag of such a setting would have been found with the value behind it.
    obtain ⟨⟨flag, reader⟩, entry, same⟩ := List.mem_map.mp (flag_mem_of_valued valued)
    obtain ⟨value, written⟩ := asks.exists_value
    have behind : Argument.behind? flag text = some value := by
      rw [behind?_eq_some_iff, written, ← same]
    have missed := List.findSome?_eq_none_iff.mp found (flag, reader) entry
    simp only [behind, Option.map_some, reduceCtorEq] at missed
  | some result =>
    obtain ⟨⟨flag, reader⟩, entry, read⟩ := List.exists_of_findSome?_eq_some found
    obtain ⟨value, behind, rfl⟩ := Option.map_eq_some_iff.mp read
    -- Whichever entry it is, the flag is that of the only setting that the text asks for.
    obtain ⟨setting, rfl, valued, reads⟩ := exists_reads_of_mem entry
    have written := behind?_eq_some_iff.mp behind
    have asks := setting.asks_of_valued valued value
    rw [← written] at asks
    exact .asked asks written reads

/-- An argument is refused exactly if it cannot be used, and for what is wrong with it. -/
theorem read_eq_error_iff {text : String} {fault : OptionFault} :
    Argument.read text = .error fault ↔ Malformed text fault := by
  have comes := reading_read text
  generalize Argument.read text = result at comes
  cases comes with
  | @asked setting value reader asks written reads =>
    rw [reads.refuses]
    constructor
    · exact fun refuses => ⟨setting, value, written, refuses⟩
    · rintro ⟨other, another, rfl, refuses⟩
      -- The text is for one setting, and so it has one value.
      obtain rfl := asks.unique refuses.asks
      rw [String.append_right_inj] at written
      rw [← written]
      exact refuses
  | left unrecognised =>
    constructor
    · nofun
    · rintro ⟨other, value, rfl, refuses⟩
      exact absurd refuses.asks (unrecognised other)

/-- An argument can be used exactly if something is read from it. -/
theorem usable_iff {text : String} :
    Usable text ↔ ∃ argument, Argument.read text = .ok argument := by
  constructor
  · intro usable
    -- Reading gives an argument or a fault, and a fault is what makes a text unusable.
    cases read : Argument.read text with
    | error fault => exact absurd (read_eq_error_iff.mp read) (usable fault)
    | ok argument => exact ⟨argument, rfl⟩
  · rintro ⟨argument, read⟩ fault malformed
    rw [read_eq_error_iff.mpr malformed] at read
    cases read

/-- What is read from an argument that can be used sets one setting, or is left to the host. -/
theorem sets_or_left_of_read {text : String} {argument : Argument}
    (read : Argument.read text = .ok argument) :
    (∃ (setting : Setting) (value : String), setting.Asks text ∧ text = setting.flag ++ value ∧
      Sets setting value argument) ∨ Unrecognised text ∧ argument = .left text := by
  have comes := reading_read text
  -- The reading is named first, so that its cases are those of the relation.
  generalize Argument.read text = result at comes read
  cases comes with
  | @asked setting value reader asks written reads =>
    exact .inl ⟨setting, value, asks, written, reads.sets value argument read⟩
  | left unrecognised => exact .inr ⟨unrecognised, (Except.ok.inj read).symm⟩

/-- What is read from an argument for a setting sets it as the value behind the flag says. -/
theorem sets_of_asks {text : String} {argument : Argument} {setting : Setting}
    (read : Argument.read text = .ok argument) (asks : setting.Asks text) :
    ∃ value, text = setting.flag ++ value ∧ Sets setting value argument := by
  rcases sets_or_left_of_read read with ⟨other, value, also, written, sets⟩ | ⟨unrecognised, -⟩
  · -- A text asks for one setting at most, so it is the one that was set.
    obtain rfl := also.unique asks
    exact ⟨value, written, sets⟩
  · exact absurd asks (unrecognised setting)

/-- What is read from any other argument does not set it. -/
theorem settingOf?_ne_of_not_asks {text : String} {argument : Argument} {setting : Setting}
    (read : Argument.read text = .ok argument) (unasked : ¬ setting.Asks text) :
    settingOf? argument ≠ some setting := by
  rcases sets_or_left_of_read read with ⟨other, value, asks, -, sets⟩ | ⟨-, rfl⟩
  · -- The setting that it sets is the one that the text asks for.
    rw [sets.1]
    rintro ⟨⟩
    exact unasked asks
  · nofun

/-- The only remark on an argument is that it is left to the host. -/
theorem remarks_of_read {text : String} {argument : Argument}
    (read : Argument.read text = .ok argument) :
    argument.remarks = if Unrecognised text then [.argumentLeft text] else [] := by
  rcases sets_or_left_of_read read with ⟨setting, value, asks, -, sets⟩ | ⟨unrecognised, rfl⟩
  · rw [if_neg fun unrecognised => unrecognised setting asks]
    -- Only an argument that sets nothing is remarked on.
    cases argument with
    | left other => cases sets.1
    | _ => rfl
  · rw [if_pos unrecognised]
    rfl

end Testbench.Options
