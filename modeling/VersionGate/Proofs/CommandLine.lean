import VersionGate.Cli.Program
import VersionGate.Proofs.Checking

/-! The command line of a check. Every option that was given stands under one of its flags and has a
value exactly if the flag takes one, so the minimum that is asked for is the last one given, and the
variable counts only where none is. -/
namespace VersionGate.Cli

theorem exists_of_bind_ok {ε α β : Type} {first : Except ε α} {next : α → Except ε β} {b : β}
    (ended : first >>= next = .ok b) : ∃ a, first = .ok a ∧ next a = .ok b := by
  cases first with
  | error e => contradiction
  | ok a => exact ⟨a, rfl, ended⟩

namespace Arguments
variable {Opt : Type} {flags : List (Flag Opt)}

/-- An option under one of its flags, with a value if the flag takes one and without if not. -/
def Fits (flags : List (Flag Opt)) (g : Given Opt) : Prop :=
  ∃ flag ∈ flags, flag.option = g.option ∧ flag.takesValue = g.value.isSome

def Waits (flags : List (Flag Opt)) (awaiting : Awaiting Opt) : Prop :=
  ∃ flag ∈ flags, flag.option = awaiting.option ∧ flag.takesValue = true

theorem mem_of_find? {flag : Flag Opt} (found : find? flags long name = some flag) : flag ∈ flags :=
  List.mem_of_find?_eq_some found

theorem shortOptions_fit {parts : List (Given Opt) × Option (Awaiting Opt)}
    (read : shortOptions flags chars = .ok parts) :
    (∀ g ∈ parts.1, Fits flags g) ∧ ∀ awaiting ∈ parts.2, Waits flags awaiting := by
  induction chars generalizing parts with
  | nil =>
    cases read
    simp
  | cons c rest ih =>
    rw [shortOptions] at read
    split at read
    · contradiction
    · rename_i flag found
      have known := mem_of_find? found
      split at read
      · rename_i takes
        split at read
        · cases read
          exact ⟨by simp, by simpa using ⟨flag, known, rfl, takes⟩⟩
        · cases read
          exact ⟨by simpa using ⟨flag, known, rfl, takes⟩, by simp⟩
      · rename_i takesNone
        split at read
        · contradiction
        · rename_i given awaiting others
          cases read
          obtain ⟨givenFit, waits⟩ := ih others
          have noValue : flag.takesValue = false := by simpa using takesNone
          have first : Fits flags ⟨flag.option, none⟩ := ⟨flag, known, rfl, noValue⟩
          exact ⟨List.forall_mem_cons.mpr ⟨first, givenFit⟩, waits⟩

theorem wordOptions_fit {parts : List (Given Opt) × Option (Awaiting Opt)}
    (read : wordOptions flags word = .ok parts) :
    (∀ g ∈ parts.1, Fits flags g) ∧ ∀ awaiting ∈ parts.2, Waits flags awaiting := by
  rw [wordOptions] at read
  generalize Text.cut '=' word = pieces at read
  obtain ⟨name, value⟩ := pieces
  dsimp only at read
  split at read
  · rename_i flag found
    have known := mem_of_find? found
    split at read
    · rename_i takes
      cases value with
      | some value =>
        cases read
        exact ⟨by simpa using ⟨flag, known, rfl, takes⟩, by simp⟩
      | none =>
        cases read
        exact ⟨by simp, by simpa using ⟨flag, known, rfl, takes⟩⟩
    · rename_i takesNone
      cases value with
      | some value => contradiction
      | none =>
        cases read
        exact ⟨by simpa using ⟨flag, known, rfl, by simpa using takesNone⟩, by simp⟩
  · split at read
    · contradiction
    · exact shortOptions_fit read

/-- The induction is on the words that are left, with the option that still waits for a value. -/
theorem scan_fit {arguments : Arguments Opt} {awaiting : Option (Awaiting Opt)}
    (scanned : scan flags mixed words awaiting = .ok arguments)
    (waits : ∀ option ∈ awaiting, Waits flags option) : ∀ g ∈ arguments.given, Fits flags g := by
  induction words generalizing awaiting arguments with
  | nil =>
    cases awaiting with
    | none =>
      cases scanned
      simp
    | some option => contradiction
  | cons word rest ih =>
    cases awaiting with
    | some option =>
      obtain ⟨others, restScanned, added⟩ := exists_of_bind_ok scanned
      cases added
      obtain ⟨flag, known, same, takes⟩ := waits option rfl
      have first : Fits flags ⟨option.option, some word⟩ := ⟨flag, known, same, takes⟩
      exact List.forall_mem_cons.mpr ⟨first, ih restScanned (by simp)⟩
    | none =>
      rw [scan] at scanned
      split at scanned
      · cases scanned
        simp
      · split at scanned
        · obtain ⟨⟨given, awaiting⟩, read, scanned⟩ := exists_of_bind_ok scanned
          obtain ⟨others, restScanned, added⟩ := exists_of_bind_ok scanned
          cases added
          obtain ⟨givenFit, waits⟩ := wordOptions_fit read
          exact List.forall_mem_append.mpr ⟨givenFit, ih restScanned waits⟩
        · split at scanned
          · obtain ⟨others, restScanned, added⟩ := exists_of_bind_ok scanned
            have othersFit := ih restScanned waits
            cases added
            exact othersFit
          · cases scanned
            simp

theorem of_find?_reverse [BEq Opt] [LawfulBEq Opt] {given : List (Given Opt)} {g : Given Opt}
    (found : given.reverse.find? (fun g => g.option == option) = some g) :
    g ∈ given ∧ g.option = option := by
  have same := List.find?_some found
  exact ⟨List.mem_reverse.mp (List.mem_of_find?_eq_some found), eq_of_beq same⟩

/-- An option that takes a value has one if it was given at all. -/
theorem last?_isSome_iff [BEq Opt] [LawfulBEq Opt] {given : List (Given Opt)} {option : Opt}
    (fit : ∀ g ∈ given, Fits flags g)
    (takes : ∀ flag ∈ flags, flag.option = option → flag.takesValue = true) :
    (last? given option).isSome = true ↔ option ∈ given.map Given.option := by
  constructor
  · intro hasValue
    obtain ⟨text, last⟩ := Option.isSome_iff_exists.mp hasValue
    obtain ⟨g, found, _⟩ := Option.bind_eq_some_iff.mp last
    obtain ⟨member, same⟩ := of_find?_reverse found
    exact List.mem_map.mpr ⟨g, member, same⟩
  · intro member
    obtain ⟨g, gMember, gOption⟩ := List.mem_map.mp member
    have somewhere : (given.reverse.find? fun g => g.option == option).isSome = true :=
      List.find?_isSome.mpr ⟨g, List.mem_reverse.mpr gMember, beq_iff_eq.mpr gOption⟩
    obtain ⟨last, found⟩ := Option.isSome_iff_exists.mp somewhere
    obtain ⟨lastMember, lastOption⟩ := of_find?_reverse found
    obtain ⟨flag, known, same, hasValue⟩ := fit last lastMember
    rw [last?, found, Option.bind_some, ← hasValue]
    exact takes flag known (same.trans lastOption)

end Arguments

namespace Program
open Arguments (last?)

/-- A command line that the check runs with: nothing of the group's is asked, no help is wanted, and
all that was given of the check's own is in order. -/
inductive RunsCheck (surroundings : Surroundings) :
    List String → List (Given CheckOption) → CheckOptions → Prop where
  | intro {given : List (Given CheckOption)} {options : CheckOptions} :
      Arguments.scan groupFlags false arguments none = .ok { operands := "check" :: words } →
      Arguments.scan checkFlags true words none = .ok { given } →
      .help ∉ given.map Given.option → checkOptions surroundings given = .ok options →
      RunsCheck surroundings arguments given options

variable {surroundings : Surroundings} {given : List (Given CheckOption)} {options : CheckOptions}

theorem RunsCheck.execute (runs : RunsCheck surroundings arguments given options) :
    execute surroundings arguments =
      { run := guarded (options.run surroundings.cluster)
        logSettings := options.logSettings } := by
  obtain ⟨group, own, noHelp, settled⟩ := runs
  have someArgument : ¬ arguments.isEmpty = true := by
    rw [List.isEmpty_iff]
    rintro rfl
    cases group
  have asksNoHelp : (given.map Given.option).contains .help = false := by
    simpa using noHelp
  rw [Program.execute, if_neg someArgument, group]
  simp only [groupAnswer?, List.head?_nil, Option.map_none, check, own, asksNoHelp, settled,
    Bool.false_eq_true, if_false, List.isEmpty_nil, if_true]

theorem RunsCheck.fit (runs : RunsCheck surroundings arguments given options) :
    ∀ g ∈ given, Arguments.Fits checkFlags g := by
  obtain ⟨_, own, _, _⟩ := runs
  exact Arguments.scan_fit own (by simp)

theorem minVersion_of_settle {next : CheckOptions} {option : CheckOption}
    (settled : settle files given options option = .ok next) :
    next.minVersion =
      if option = .minVersion then last? given .minVersion else options.minVersion := by
  cases option with
  | kubeconfig =>
    rw [settle] at settled
    split at settled
    · cases settled
      rfl
    · obtain ⟨path, _, put⟩ := exists_of_bind_ok settled
      cases put
      rfl
  | outputFormat =>
    rw [settle] at settled
    split at settled
    · cases settled
      rfl
    · obtain ⟨format, _, put⟩ := exists_of_bind_ok settled
      cases put
      rfl
  | context | minVersion | verbose | help =>
    cases settled
    rfl

theorem minVersion_of_foldlM {start final : CheckOptions} {asked : List CheckOption}
    (settled : asked.foldlM (settle files given) start = .ok final) :
    final.minVersion =
      if .minVersion ∈ asked then last? given .minVersion else start.minVersion := by
  induction asked generalizing start with
  | nil =>
    cases settled
    rfl
  | cons option rest ih =>
    rw [List.foldlM_cons] at settled
    obtain ⟨next, first, others⟩ := exists_of_bind_ok settled
    rw [ih others, minVersion_of_settle first]
    by_cases later : .minVersion ∈ rest
    · simp [later]
    · by_cases now : option = .minVersion
      · simp [now]
      · simp [now, later, Ne.symm now]

theorem minVersion_of_checkOptions (settled : checkOptions surroundings given = .ok options) :
    options.minVersion =
      if .minVersion ∈ given.map Given.option then last? given .minVersion
      else surroundings.variableValue.filter fun text => !text.isEmpty := by
  obtain ⟨folded, allSettled, put⟩ := exists_of_bind_ok settled
  have asked := minVersion_of_foldlM allSettled
  simp only [List.mem_eraseDups] at asked
  by_cases member : .minVersion ∈ given.map Given.option
  · rw [if_pos (by simpa using member)] at put
    cases put
    simpa [member] using asked
  · rw [if_neg (by simpa using member)] at put
    cases put
    rw [if_neg member]

theorem takesValue_of_minVersion : ∀ flag ∈ checkFlags, flag.option = .minVersion →
    flag.takesValue = true := by decide

/-- The minimum of a check is the last one on its command line, or else the variable. -/
theorem RunsCheck.minVersion (runs : RunsCheck surroundings arguments given options) :
    Config.inForce options.minVersion =
      Config.inForce ((last? given .minVersion).or surroundings.variableValue) := by
  have givenValue := Arguments.last?_isSome_iff runs.fit takesValue_of_minVersion
  obtain ⟨_, _, _, settled⟩ := runs
  simp only [minVersion_of_checkOptions settled, ← givenValue]
  cases last : last? given .minVersion with
  | some text => rfl
  | none => exact Config.inForce_filter _

theorem RunsCheck.minimum (runs : RunsCheck surroundings arguments given options) :
    options.config.minimum =
      Config.inForce ((last? given .minVersion).or surroundings.variableValue) := by
  rw [Config.minimum_eq_inForce, CheckOptions.config, Config.inForce_filter, runs.minVersion]

/-- Any text can be asked for as the minimum, whatever the surroundings are. -/
theorem runsCheck_minVersion (surroundings : Surroundings) (text : String) :
    RunsCheck surroundings ["check", "--min-version", text] [⟨.minVersion, some text⟩]
      { minVersion := some text } :=
  .intro rfl rfl (by simp) rfl

theorem settle_outputFormat (last : last? given .outputFormat = some word)
    (known : readFormat word = .ok format) :
    settle files given options .outputFormat = .ok { options with format } := by
  rw [settle, last]
  dsimp only
  rw [known]
  rfl

theorem checkOptions_of_settled (options : CheckOptions)
    (settled : (given.map Given.option).eraseDups.foldlM (settle surroundings.files given) {} =
      .ok options) (noMinimum : .minVersion ∉ given.map Given.option) :
    checkOptions surroundings given = .ok { options with
      minVersion := surroundings.variableValue.filter fun text => !text.isEmpty } := by
  have absent : (given.map Given.option).contains .minVersion = false := by simpa using noMinimum
  rw [checkOptions, settled]
  show (if _ then _ else _) = _
  rw [absent]
  rfl

theorem readFormat_json : readFormat "json" = .ok .json := by
  have listed : formats.lookup (Text.smallLetters "json") = some .json := by decide +kernel
  rw [readFormat, listed]

/-- Any format can be asked for, with progress or without. -/
theorem runsCheck_format (surroundings : Surroundings) (known : readFormat word = .ok format)
    (verbose : Bool) : RunsCheck surroundings
      ("check" :: "-o" :: word :: if verbose then ["-v"] else [])
      (⟨.outputFormat, some word⟩ :: if verbose then [⟨.verbose, none⟩] else [])
      { format, verbose
        minVersion := surroundings.variableValue.filter fun text => !text.isEmpty } := by
  have first {given : List (Given CheckOption)} (last : last? given .outputFormat = some word) :
      settle surroundings.files given {} .outputFormat = .ok { format } :=
    settle_outputFormat last known
  cases verbose with
  | false =>
    refine .intro rfl rfl (by simp) (checkOptions_of_settled { format } ?_ (by simp))
    show (settle _ _ _ _ >>= _) = _
    rw [first rfl]
    rfl
  | true =>
    refine .intro rfl rfl (by simp)
      (checkOptions_of_settled { format, verbose := true } ?_ (by simp))
    show (settle _ _ _ _ >>= _) = _
    rw [first rfl]
    rfl

end Program
end VersionGate.Cli
