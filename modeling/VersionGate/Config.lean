import VersionGate.Run

/-! The required minimum: an explicit text, else the value of an environment variable, else a
default. It is used as it is given and only read when a check runs. -/
namespace VersionGate

/-- A minimum that is set, or none; an empty text counts as none. -/
structure Config where
  minVersion : Option String := none
deriving DecidableEq, Repr

namespace Config

def variableName : String := "KUBERNETES_MIN_VERSION"

/-- Required where no override is configured. -/
def defaultMinimum : String := "v1.18.0"

def kindName : String := "VersionCheckConfig"

def fieldName : String := "min_version"

def ofFields (fields : Fields) : Except Invalid Config :=
  let minVersion := fields.optionalText fieldName
  match minVersion, Issue.of? minVersion ++ fields.unexpected [fieldName] with
  | .ok minVersion, [] => .ok { minVersion }
  | _, issues => .error { record := kindName, issues }

/-- The configuration by an environment whose values need not be text; an unset value is none. -/
def ofEnvironment (environment : Fields) : Except Invalid Config :=
  match environment.get? variableName with
  | none => .ok {}
  | some value => if value.isUnset then .ok {} else ofFields [(fieldName, value)]

def ofVariable : Option String → Config
  | some text => if text.isEmpty then {} else { minVersion := some text }
  | none => {}

/-- An explicit configuration hides the variable, even if it sets nothing. -/
def effective (config : Option Config) (variableValue : Option String) : Config :=
  config.getD (ofVariable variableValue)

def override? (config : Config) : Option String :=
  config.minVersion.filter fun text => !text.isEmpty

def isOverride (config : Config) : Bool := config.override?.isSome

def minimum (config : Config) : String := config.override?.getD defaultMinimum

def resolve (config : Config) : Run String := do
  if config.isOverride then
    Run.record .debug "version_check.override_used"
      [("key", .text variableName), ("min_version", .text config.minimum)]
  return config.minimum

/-- Names that start with an underscore are left to notes, which no configuration depends on. -/
def isNote (name : String) : Bool := name.toList.head? = some '_'

/-- The configuration cannot be changed: an assignment is refused, or is a note and without effect. -/
def assign (config : Config) (name : String) (value : Value) : Except Invalid Config :=
  if isNote name then .ok config
  else .error { record := kindName, issues := [⟨name, .frozen, value⟩] }

def describe (config : Config) : String :=
  kindName ++ "(" ++ fieldName ++ "=" ++ (config.minVersion.elim "None" Text.quoted) ++ ")"

end Config

end VersionGate
