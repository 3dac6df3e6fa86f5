import VersionGate.Check

/-! A session: named configurations and checkers and the environment variable, changed and used
step by step. A step that fails changes nothing. Where a checker is bound anew, its configuration is
looked up before the checker. -/
namespace VersionGate

structure Session where
  variableValue : Option String := none
  configs : List (String × Config) := []
  checkers : List (String × Checker) := []
deriving DecidableEq, Repr

namespace Session

abbrev ConfigName := Option String

inductive Step where
  | setVariable (value : Option String)
  | makeConfig (name : String) (fields : Fields)
  | readConfig (name : String) (environment : Option Fields)
  | assignField (config : ConfigName) (field : String) (value : Value)
  | configInfo (config : ConfigName)
  | configsEqual (a b : ConfigName)
  | minimum (config : ConfigName)
  | makeChecker (name : String) (config : ConfigName)
  | rebind (checker : String) (config : ConfigName)
  | checkerMinimum (checker : String)
  | describe (checker : String)
  | check (checker : String) (versioner : Versioner)
  | checkDirectly (config : ConfigName) (versioner : Versioner)

inductive Reply where
  | done
  | minVersion (text : Option String)
  | info (isOverride : Bool) (minimum : String)
  | equal (answer : Bool)
  | text (s : String)
deriving DecidableEq, Repr

def unknownName (name : String) : Failure := .ofText .key name

def noPart (name : String) : Failure := .missing ⟨.thing Value.null.kindName, name⟩

def config (session : Session) : ConfigName → Run (Option Config)
  | none => return none
  | some name =>
      match session.configs.lookup name with
      | some config => return some config
      | none => Run.fail (unknownName name)

/-- A configuration of which a part is wanted, so that there has to be one. -/
def configWith (session : Session) (part : String) (name : ConfigName) : Run Config := do
  match ← session.config name with
  | some config => return config
  | none => Run.fail (noPart part)

def checker (session : Session) (name : String) : Run Checker :=
  match session.checkers.lookup name with
  | some checker => return checker
  | none => Run.fail (unknownName name)

/-- The later definition of a name hides the earlier. -/
def define {α : Type} (name : String) (a : α) (known : List (String × α)) : List (String × α) :=
  (name, a) :: known

/-- What a step does, with the session after it. -/
def perform (session : Session) : Step → Run (Reply × Session)
  | .setVariable value => return (.done, { session with variableValue := value })
  | .makeConfig name fields => do
      let config ← Run.ofExcept ((Config.ofFields fields).mapError .invalid)
      return (.minVersion config.minVersion,
        { session with configs := define name config session.configs })
  | .readConfig name environment => do
      let config ← match environment with
        | none => pure (Config.ofVariable session.variableValue)
        | some environment =>
            Run.ofExcept ((Config.ofEnvironment environment).mapError .invalid)
      return (.minVersion config.minVersion,
        { session with configs := define name config session.configs })
  | .assignField config field value => do
      let config ← session.configWith field config
      let _ ← Run.ofExcept ((config.assign field value).mapError .invalid)
      return (.done, session)
  | .configInfo config => do
      let config ← session.configWith "is_override" config
      let minimum ← config.resolve
      return (.info config.isOverride minimum, session)
  | .configsEqual a b => do
      let a ← session.config a
      let b ← session.config b
      return (.equal (a = b), session)
  | .minimum config => do
      let config ← session.config config
      return (.text (← getMinimumVersion config session.variableValue), session)
  | .makeChecker name config => do
      let checker : Checker := { config := ← session.config config }
      let description ← checker.describe session.variableValue
      return (.text description, { session with checkers := define name checker session.checkers })
  | .rebind name config => do
      let checker : Checker := { config := ← session.config config }
      let _ ← session.checker name
      let description ← checker.describe session.variableValue
      return (.text description, { session with checkers := define name checker session.checkers })
  | .checkerMinimum name => do
      let checker ← session.checker name
      return (.text (← checker.minimumVersion session.variableValue), session)
  | .describe name => do
      let checker ← session.checker name
      return (.text (← checker.describe session.variableValue), session)
  | .check name versioner => do
      let checker ← session.checker name
      checker.check versioner session.variableValue
      return (.done, session)
  | .checkDirectly config versioner => do
      let config ← session.config config
      checkMinimumVersion versioner config session.variableValue
      return (.done, session)

/-- One step: its reply or failure with what it did, and the session that goes on. -/
def step (session : Session) (s : Step) : Run Reply × Session :=
  let run := session.perform s
  match run.outcome with
  | .ok (reply, next) => (⟨.ok reply, run.effects⟩, next)
  | .error failure => (⟨.error failure, run.effects⟩, session)

def run (session : Session) : List Step → List (Run Reply)
  | [] => []
  | s :: rest =>
      match session.step s with
      | (reply, next) => reply :: next.run rest

end Session

end VersionGate
