import VersionGate.Cli.Arguments
import VersionGate.Cli.CheckCommand
import VersionGate.Cli.Files
import VersionGate.Cli.Help
import VersionGate.Release

/-! The command line: arguments in, a run and its exit code out. Help and version are answered
before any value is looked at, values in the order in which their options were first given. -/
namespace VersionGate.Cli

structure Surroundings where
  variableValue : Option String := none
  files : Files := {}
  cluster : Cluster := {}

structure Execution where
  run : Run ExitCode
  logSettings : Log.Settings := {}

namespace Program

inductive GroupOption where
  | version | help
deriving DecidableEq, Repr

inductive CheckOption where
  | kubeconfig | context | minVersion | outputFormat | verbose | help
deriving DecidableEq, Repr

def groupFlags : List (Flag GroupOption) :=
  [⟨.version, ["--version"], false⟩, ⟨.help, ["-h", "--help"], false⟩]

def checkFlags : List (Flag CheckOption) :=
  [⟨.kubeconfig, ["--kubeconfig"], true⟩, ⟨.context, ["--context"], true⟩,
    ⟨.minVersion, ["--min-version"], true⟩, ⟨.outputFormat, ["--output-format", "-o"], true⟩,
    ⟨.verbose, ["--verbose", "-v"], false⟩, ⟨.help, ["-h", "--help"], false⟩]

def formats : List (String × Format) := [("text", .text), ("json", .json)]

def kubeconfigLabel : String := "'--kubeconfig'"

def formatLabel : String := "'--output-format' / '-o'"

def readFormat (value : String) : Except UsageError Format :=
  match formats.lookup (Text.smallLetters value) with
  | some format => .ok format
  | none => .error (.notAChoice formatLabel value (formats.map (·.1)))

inductive Obstacle where
  | usage (e : UsageError)
  /-- A value that cannot be looked up; no usage is shown, the run fails. -/
  | failure (e : Failure)
deriving Repr

def readPath (files : Files) (path : String) : Except Obstacle Path := do
  let names ← (files.locate path).mapError .failure
  match files.kindOf names with
  | some .file => return .absolute names
  | some .directory => .error (.usage (.isDirectory kubeconfigLabel path))
  | none => .error (.usage (.noSuchFile kubeconfigLabel path))

/-- The options with one given option put in, its value being the one given last. -/
def settle (files : Files) (given : List (Given CheckOption)) (options : CheckOptions) :
    CheckOption → Except Obstacle CheckOptions
  | .kubeconfig =>
      match Arguments.last? given .kubeconfig with
      | none => .ok options
      | some path => do return { options with kubeconfig := some (← readPath files path) }
  | .outputFormat =>
      match Arguments.last? given .outputFormat with
      | none => .ok options
      | some value => do return { options with format := ← (readFormat value).mapError .usage }
  | .context => .ok { options with context := Arguments.last? given .context }
  | .minVersion => .ok { options with minVersion := Arguments.last? given .minVersion }
  | .verbose => .ok { options with verbose := true }
  | .help => .ok options

/-- The options of the check command. The variable stands in for a minimum that is not given, unless
it is empty. -/
def checkOptions (surroundings : Surroundings) (given : List (Given CheckOption)) :
    Except Obstacle CheckOptions := do
  let options ← (given.map Given.option).eraseDups.foldlM
    (settle surroundings.files given) {}
  if (given.map Given.option).contains .minVersion then return options
  else return { options with
    minVersion := surroundings.variableValue.filter fun text => !text.isEmpty }

def refuse (usage : Help.Usage) (e : UsageError) : Run ExitCode := do
  if e.showsUsage then
    Notice.info usage.line
    Notice.info usage.hint
    Notice.info ""
  Notice.error e.message []
  return .usageError

def answer (text : String) : Run ExitCode := do
  Notice.success text
  return .success

/-- An interrupt ends the program with a line of its own; nothing else is caught here. -/
def guarded (run : Run ExitCode) : Run ExitCode := do
  match ← Run.attempt run with
  | .ok code => return code
  | .error failure =>
      if failure.isInterrupt then
        Notice.info ""
        Notice.info "Aborted!"
        return .generalError
      else Run.fail failure

def check (surroundings : Surroundings) (arguments : List String) : Execution :=
  match Arguments.scan checkFlags true arguments none with
  | .error e => { run := refuse Help.checkUsage e }
  | .ok scanned =>
      if (scanned.given.map Given.option).contains .help then { run := answer Help.check }
      else match checkOptions surroundings scanned.given with
        | .error (.usage e) => { run := refuse Help.checkUsage e }
        | .error (.failure e) => { run := Run.fail e }
        | .ok options =>
            if scanned.operands.isEmpty then
              { run := guarded (options.run surroundings.cluster)
                logSettings := options.logSettings }
            else { run := refuse Help.checkUsage (.unexpected scanned.operands) }

def groupAnswer? (given : List (Given GroupOption)) : Option (Run ExitCode) :=
  given.head?.map fun first =>
    match first.option with
    | .version => answer (Help.programName ++ " " ++ Release.version)
    | .help => answer Help.group

/-- A name that is no command. One that looks like an option is read as options of the group
once more, as if nothing had ended them. -/
def unknownCommand (operands : List String) (name : String) : Run ExitCode :=
  match Arguments.scan groupFlags false operands none with
  | .error e => refuse Help.groupUsage e
  | .ok scanned =>
      (groupAnswer? scanned.given).getD (refuse Help.groupUsage (.noSuchCommand name))

def execute (surroundings : Surroundings) (arguments : List String) : Execution :=
  if arguments.isEmpty then
    { run := do
        Notice.info Help.group
        return .usageError }
  else match Arguments.scan groupFlags false arguments none with
    | .error e => { run := refuse Help.groupUsage e }
    | .ok scanned =>
        match groupAnswer? scanned.given with
        | some run => { run }
        | none =>
            match scanned.operands with
            | [] => { run := refuse Help.groupUsage .missingCommand }
            | "check" :: rest => check surroundings rest
            | name :: rest => { run := unknownCommand (name :: rest) name }

def kubeconfigPaths (arguments : List String) : List String :=
  match Arguments.scan checkFlags true arguments none with
  | .ok scanned => scanned.given.filterMap fun g =>
      if g.option = .kubeconfig then g.value else none
  | .error _ => []

end Program

namespace Execution

def output (execution : Execution) : String :=
  String.join (execution.run.effects.filterMap fun
    | .print .output text => some text
    | _ => none)

/-- The text written to the diagnostics channel: lines and log records in the order they came. A
record that cannot be written is left out. -/
def diagnostics (execution : Execution) (stamp : Log.Stamp) : String :=
  String.join (execution.run.effects.filterMap fun
    | .print .diagnostics text => some text
    | .record r => (execution.logSettings.write? stamp [] r).toOption.join
    | _ => none)

end Execution

end VersionGate.Cli
