import Testbench.Proofs.Session.Arguments

/-! The last argument for a setting decides, and the first argument that cannot be used refuses. -/

namespace Testbench.Options

/-- The arguments for a setting, in their order. -/
def Setting.requests (setting : Setting) (arguments : List String) : List String :=
  arguments.filter fun text => setting.Asks text

/-- An argument is one of those for a setting if it asks for it. -/
theorem Setting.requests_cons (setting : Setting) (text : String) (rest : List String) :
    setting.requests (text :: rest) =
      if setting.Asks text then text :: setting.requests rest else setting.requests rest := by
  -- A filter keeps the head or drops it.
  simp only [requests, List.filter_cons, decide_eq_true_eq]

/-- What is wrong with the first argument that cannot be used. -/
inductive FirstFault : List String → OptionFault → Prop
  | here {text : String} {rest : List String} {fault : OptionFault}
    (malformed : Malformed text fault) : FirstFault (text :: rest) fault
  | later {text : String} {rest : List String} {fault : OptionFault} (usable : Usable text)
    (there : FirstFault rest fault) : FirstFault (text :: rest) fault

/-- A setting is as the last argument for it says, and as before if there is none. -/
structure Follows (arguments : List String) (before after : Options) (setting : Setting) :
    Prop where
  asked : ∀ text, (setting.requests arguments).getLast? = some text →
    ∃ value, text = setting.flag ++ value ∧ setting.Says value (after.get setting)
  unasked : setting.requests arguments = [] → after.get setting = before.get setting

section Reading

variable {options final : Options} {text : String} {rest arguments : List String}

/-- Nothing is read behind an argument that is refused. -/
theorem addAll_cons_of_error {fault : OptionFault} (read : Argument.read text = .error fault) :
    options.addAll (text :: rest) = (.error fault, []) := by
  rw [addAll, read]

/-- The arguments behind one that can be used are added to the options that it gives. -/
theorem addAll_cons_of_ok {argument : Argument} (read : Argument.read text = .ok argument) :
    options.addAll (text :: rest) =
      (((options.add argument).addAll rest).1,
        argument.remarks ++ ((options.add argument).addAll rest).2) := by
  rw [addAll, read]

/-- Arguments are refused for what is wrong with the first that cannot be used. -/
theorem addAll_eq_error_iff {fault : OptionFault} :
    (options.addAll arguments).1 = .error fault ↔ FirstFault arguments fault := by
  -- The options collected before do not matter, so the induction is over any of them.
  induction arguments generalizing options with
  | nil => exact ⟨nofun, nofun⟩
  | cons text rest ih =>
    cases read : Argument.read text with
    | error found =>
      rw [addAll_cons_of_error read, Except.error.injEq]
      constructor
      · rintro rfl
        exact .here (read_eq_error_iff.mp read)
      · intro first
        cases first with
        | here malformed =>
          -- Only one thing is wrong with an argument, as reading it has one result.
          rw [read_eq_error_iff.mpr malformed] at read
          exact (Except.error.inj read).symm
        | later usable => exact absurd (read_eq_error_iff.mp read) (usable found)
    | ok argument =>
      have usable : Usable text := usable_iff.mpr ⟨argument, read⟩
      rw [addAll_cons_of_ok read, ih]
      constructor
      · exact .later usable
      · intro first
        cases first with
        | here malformed => exact absurd malformed (usable fault)
        | later _ there => exact there

/-- Arguments are accepted exactly if all of them can be used. -/
theorem exists_addAll_eq_ok_iff :
    (∃ final, (options.addAll arguments).1 = .ok final) ↔ ∀ text ∈ arguments, Usable text := by
  -- One that cannot be used stops the reading, and any other one leaves it to the rest.
  induction arguments generalizing options with
  | nil => exact ⟨fun _ => nofun, fun _ => ⟨options, rfl⟩⟩
  | cons text rest ih =>
    rw [List.forall_mem_cons]
    cases read : Argument.read text with
    | error fault =>
      rw [addAll_cons_of_error read]
      constructor
      · rintro ⟨final, accepted⟩
        cases accepted
      · exact fun usable => absurd (read_eq_error_iff.mp read) (usable.1 fault)
    | ok argument =>
      rw [addAll_cons_of_ok read, ih]
      exact (and_iff_right (usable_iff.mpr ⟨argument, read⟩)).symm

/-- The remarks on arguments that can be used are about those for the host. -/
theorem remarks_addAll (usable : ∀ text ∈ arguments, Usable text) :
    (options.addAll arguments).2 =
      (arguments.filter fun text => Unrecognised text).map .argumentLeft := by
  -- The options are generalised, as each argument leaves those for the next one.
  induction arguments generalizing options with
  | nil => rfl
  | cons text rest ih =>
    obtain ⟨first, others⟩ := List.forall_mem_cons.mp usable
    obtain ⟨argument, read⟩ := usable_iff.mp first
    rw [addAll_cons_of_ok read, ih others, remarks_of_read read, List.filter_cons]
    -- An argument is remarked on when it is left to the host, and only then.
    by_cases unrecognised : Unrecognised text
    · simp only [unrecognised, decide_true, if_true, List.map_cons, List.singleton_append]
    · simp only [unrecognised, decide_false, if_false, Bool.false_eq_true, List.nil_append]

/-- An argument in front of others decides only if none of them is for the same setting. -/
theorem Follows.cons {argument : Argument} {setting : Setting}
    (read : Argument.read text = .ok argument)
    (follows : Follows rest (options.add argument) final setting) :
    Follows (text :: rest) options final setting := by
  have requests := setting.requests_cons text rest
  by_cases asks : setting.Asks text
  · rw [if_pos asks] at requests
    constructor
    case asked =>
      intro last found
      rw [requests] at found
      cases later : setting.requests rest with
      | nil =>
        -- This is the last argument for the setting, which stays as it has set it.
        rw [later] at found
        obtain rfl : text = last := Option.some.inj found
        obtain ⟨value, written, -, sets⟩ := sets_of_asks read asks
        rw [follows.unasked later]
        exact ⟨value, written, sets options⟩
      | cons other others =>
        -- A later one decides, whatever this one says.
        rw [later, List.getLast?_cons_cons, ← later] at found
        exact follows.asked last found
    case unasked =>
      intro none
      rw [requests] at none
      cases none
  · rw [if_neg asks] at requests
    have kept := get_add_of_ne (settingOf?_ne_of_not_asks read asks) options
    constructor
    case asked =>
      intro last found
      rw [requests] at found
      exact follows.asked last found
    case unasked =>
      intro none
      rw [requests] at none
      exact (follows.unasked none).trans kept

/-- Each setting is decided by the last of the arguments that is for it. -/
theorem follows_addAll (ran : (options.addAll arguments).1 = .ok final) (setting : Setting) :
    Follows arguments options final setting := by
  -- The rest of the arguments goes on from the options that the first one gives.
  induction arguments generalizing options with
  | nil =>
    -- Nothing is asked for, and nothing is changed.
    obtain rfl := Except.ok.inj ran
    exact ⟨nofun, fun _ => rfl⟩
  | cons text rest ih =>
    cases read : Argument.read text with
    | error fault =>
      rw [addAll_cons_of_error read] at ran
      cases ran
    | ok argument =>
      rw [addAll_cons_of_ok read] at ran
      exact (ih ran).cons read

end Reading

section Requests

variable {arguments others : List String}

/-- The arguments for a setting are some of all arguments. -/
theorem Setting.mem_requests {setting : Setting} {text : String} :
    text ∈ setting.requests arguments ↔ text ∈ arguments ∧ setting.Asks text := by
  rw [requests, List.mem_filter, decide_eq_true_iff]

/-- Whether arguments can be used depends on those for the settings only. -/
theorem usable_of_requests
    (same : ∀ setting : Setting, setting.requests others = setting.requests arguments)
    (usable : ∀ text ∈ arguments, Usable text) : ∀ text ∈ others, Usable text := by
  rintro text among fault ⟨setting, value, rfl, refuses⟩
  -- What is wrong with an argument is wrong with a value for a setting.
  have requested := Setting.mem_requests.mpr ⟨among, refuses.asks⟩
  rw [same] at requested
  exact usable _ (Setting.mem_requests.mp requested).1 fault ⟨setting, value, rfl, refuses⟩

/-- The same arguments for each setting give the same options. -/
theorem eq_of_follows {before first second : Options}
    (same : ∀ setting : Setting, setting.requests others = setting.requests arguments)
    (follows : ∀ setting, Follows arguments before first setting)
    (also : ∀ setting, Follows others before second setting) : second = first := by
  refine ext_get fun setting => ?_
  cases last : (setting.requests arguments).getLast? with
  | none =>
    have none := List.getLast?_eq_none_iff.mp last
    rw [(follows setting).unasked none, (also setting).unasked ((same setting).trans none)]
  | some text =>
    obtain ⟨value, written, one⟩ := (follows setting).asked text last
    obtain ⟨another, alike, two⟩ := (also setting).asked text (by rw [same, last])
    -- The text is the flag with one value, which says one thing.
    rw [written, String.append_right_inj] at alike
    rw [← alike] at two
    exact two.unique one

/-- Arguments that can be used give what any others give with the same ones for each setting. -/
theorem ofArguments_eq_of_requests (seed : UInt32)
    (same : ∀ setting : Setting, setting.requests others = setting.requests arguments)
    (usable : ∀ text ∈ arguments, Usable text) :
    (ofArguments others seed).1 = (ofArguments arguments seed).1 := by
  obtain ⟨first, ran⟩ := exists_addAll_eq_ok_iff.mpr usable
  obtain ⟨second, ranToo⟩ := exists_addAll_eq_ok_iff.mpr (usable_of_requests same usable)
  -- Options that follow the same arguments, setting by setting, are the same.
  rw [ofArguments, ofArguments, ran, ranToo,
    eq_of_follows same (follows_addAll ran) (follows_addAll ranToo)]

/-- Arguments for the host are for no setting, wherever they are put. -/
theorem Setting.requests_insert {before inserted after : List String}
    (unrecognised : ∀ text ∈ inserted, Unrecognised text) (setting : Setting) :
    setting.requests (before ++ inserted ++ after) = setting.requests (before ++ after) := by
  -- What is for no setting is kept by none of the filters.
  have none : setting.requests inserted = [] := by
    rw [requests, List.filter_eq_nil_iff]
    intro text among
    simpa using unrecognised text among setting
  simp only [requests, List.filter_append] at none ⊢
  rw [none, List.append_nil]

/-- Neighbours for different settings may change places. -/
theorem Setting.requests_exchange {before after : List String} {first second : String}
    (apart : ∀ setting : Setting, setting.Asks first → ¬ setting.Asks second)
    (setting : Setting) :
    setting.requests (before ++ second :: first :: after) =
      setting.requests (before ++ first :: second :: after) := by
  -- At most one of the two is kept, so their order does not show.
  have pair : setting.requests (second :: first :: after) =
      setting.requests (first :: second :: after) := by
    simp only [requests_cons]
    by_cases asks : setting.Asks first
    · simp only [asks, apart setting asks, if_true, if_false]
    · simp only [asks, if_false]
  simp only [requests, List.filter_append] at pair ⊢
  rw [pair]

/-- A switch that was off is on exactly if it is among the arguments. -/
theorem Follows.switched_iff {before after : Options} {setting : Setting}
    (follows : Follows arguments before after setting) (switch : setting.form = .switch)
    (off : ¬ setting.Says "" (before.get setting)) :
    setting.Says "" (after.get setting) ↔ setting.flag ∈ arguments := by
  cases last : (setting.requests arguments).getLast? with
  | none =>
    have none := List.getLast?_eq_none_iff.mp last
    rw [follows.unasked none]
    refine ⟨fun on => absurd on off, fun among => ?_⟩
    have requested := Setting.mem_requests.mpr ⟨among, setting.asks_of_switch switch⟩
    rw [none] at requested
    cases requested
  | some text =>
    obtain ⟨value, written, on⟩ := follows.asked text last
    -- Nothing but the flag asks for a switch, so there is no value.
    obtain ⟨among, asks⟩ := Setting.mem_requests.mp (List.mem_of_getLast? last)
    rw [Setting.Asks, switch] at asks
    rw [asks] at written among
    obtain rfl : "" = value := by
      rw [← String.append_right_inj setting.flag, String.append_empty]
      exact written
    exact ⟨fun _ => among, fun _ => on⟩

end Requests

/-- What accepted arguments give, with a seed for the case that they give none. -/
structure Given (arguments : List String) (seed : UInt32) (options : Options) : Prop where
  /-- Each setting is as the last argument for it says, or as it is without arguments. -/
  follows : ∀ setting, Follows arguments { seed } options setting
  /-- Each switch is on exactly if it is among the arguments. -/
  memory : options.memory = .timed ↔ "+dramsim" ∈ arguments
  verbose : options.verbose = true ↔ "+verbose" ∈ arguments
  reportCycles : options.reportCycles = true ↔ "+cycle-count" ∈ arguments

/-- Accepted arguments give what they say. -/
theorem given_of_ofArguments {arguments : List String} {seed : UInt32} {options : Options}
    (accepted : (ofArguments arguments seed).1 = .ok options) : Given arguments seed options := by
  have follows : ∀ setting, Follows arguments { seed } options setting := follows_addAll accepted
  -- A switch is given exactly if it is among the arguments, as it is off at first.
  constructor
  case follows => exact follows
  case memory => exact (follows .memory).switched_iff rfl nofun
  case verbose => exact (follows .verbose).switched_iff rfl nofun
  case reportCycles => exact (follows .reportCycles).switched_iff rfl nofun

/-- What becomes of a list of arguments, and what it depends on. -/
structure DecidedByLast (arguments : List String) (seed : UInt32) : Prop where
  /-- The arguments are accepted if all of them can be used. -/
  accepted : (∃ options, (ofArguments arguments seed).1 = .ok options) ↔
    ∀ text ∈ arguments, Usable text
  /-- Otherwise they are refused for the first that cannot be used, whatever comes behind it. -/
  refused : ∀ fault, (ofArguments arguments seed).1 = .error fault ↔ FirstFault arguments fault
  given : ∀ options, (ofArguments arguments seed).1 = .ok options → Given arguments seed options
  /-- The arguments for the host are remarked on, and nothing else is done about them. -/
  remarks : (∀ text ∈ arguments, Usable text) →
    (ofArguments arguments seed).2 =
      (arguments.filter fun text => Unrecognised text).map .argumentLeft
  /-- Further arguments for the host make no difference, wherever they are put. -/
  inserted : (∀ text ∈ arguments, Usable text) → ∀ before others after,
    arguments = before ++ after → (∀ text ∈ others, Unrecognised text) →
      (ofArguments (before ++ others ++ after) seed).1 = (ofArguments arguments seed).1
  /-- Neighbours for different settings may change places. -/
  exchanged : (∀ text ∈ arguments, Usable text) → ∀ before first second after,
    arguments = before ++ first :: second :: after →
      (∀ setting : Setting, setting.Asks first → ¬ setting.Asks second) →
        (ofArguments (before ++ second :: first :: after) seed).1 = (ofArguments arguments seed).1
  /-- In all, it is only the arguments for each setting, in their order, that matter. -/
  rearranged : (∀ text ∈ arguments, Usable text) → ∀ others,
    (∀ setting : Setting, setting.requests others = setting.requests arguments) →
      (ofArguments others seed).1 = (ofArguments arguments seed).1

/-- Options are decided by the last argument for each setting, unless one cannot be used. -/
theorem decidedByLast (arguments : List String) (seed : UInt32) :
    DecidedByLast arguments seed := by
  constructor
  case accepted => exact exists_addAll_eq_ok_iff
  case refused => exact fun fault => addAll_eq_error_iff
  case given => exact fun options accepted => given_of_ofArguments accepted
  case remarks => exact remarks_addAll
  -- The last three cases are one: the arguments for each setting are the same.
  case inserted =>
    rintro usable before others after rfl unrecognised
    exact ofArguments_eq_of_requests seed (Setting.requests_insert unrecognised) usable
  case exchanged =>
    rintro usable before first second after rfl apart
    exact ofArguments_eq_of_requests seed (Setting.requests_exchange apart) usable
  case rearranged =>
    intro usable others same
    exact ofArguments_eq_of_requests seed same usable

/-- Settings given twice or not at all, in two orders, and among arguments for the host. -/
theorem decidedByLast_of_mixed_arguments :
    let arguments := ["-s1", "+loadmem=a.hex", "+verbose", "-vrun.vcd", "-s+12", "-v-"]
    let others :=
      ["pk", "-vrun.vcd", "-s1", "-v-", "+verbose=", "-s+12", "+loadmem=a.hex", "+verbose"]
    let options : Options :=
      { seed := 12, image := some "a.hex", verbose := true, trace := some .output }
    (∀ text ∈ arguments, Usable text) ∧ Given arguments 7 options ∧
      (∀ setting : Setting, setting.requests others = setting.requests arguments) ∧
      (ofArguments others 7).1 = .ok options ∧
      FirstFault ["-s1", "+memsize=-4", "-v"] (.invalidValue "+memsize" "-4") := by
  intro arguments others options
  -- Of two seeds the last one counts, and of two targets the dash.
  have given : (ofArguments arguments 7).1 = .ok options := by decide +kernel
  have same : ∀ setting : Setting, setting.requests others = setting.requests arguments := by
    decide +kernel
  have decided := decidedByLast arguments 7
  have usable := decided.accepted.mp ⟨options, given⟩
  have rearranged := decided.rearranged usable others same
  -- Of two faults the leftmost one counts.
  have refused := decidedByLast ["-s1", "+memsize=-4", "-v"] 7
  exact ⟨usable, decided.given options given, same, rearranged.trans given,
    (refused.refused _).mp (by decide +kernel)⟩

end Testbench.Options
