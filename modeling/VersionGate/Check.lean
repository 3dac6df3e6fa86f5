import VersionGate.Comparison
import VersionGate.Server
import VersionGate.Tracing

/-! The check of a server: its version is asked once, the minimum is resolved, and the two are
compared within a span. A failure of the question itself passes through untouched. -/
namespace VersionGate

def Comparison.traced (override : Bool) (current minimum : String) : Run Unit :=
  Run.withinSpan override [] do
    Run.mark Span.currentKey (.text current)
    Run.mark Span.minimumKey (.text minimum)
    Comparison.compareVersions current minimum Config.variableName

/-- Checks a server against a configuration, or against the variable where there is none. -/
def checkMinimumVersion (versioner : Versioner) (config : Option Config)
    (variableValue : Option String) : Run Unit := do
  let config := Config.effective config variableValue
  let info ← versioner.ask
  let minimum ← config.resolve
  Run.record .info "version_check.started"
    [("git_version", .text info.gitVersion), ("minimum_version", .text minimum),
      ("override", .bool config.isOverride)]
  Comparison.traced config.isOverride info.gitVersion minimum

def getMinimumVersion (config : Option Config) (variableValue : Option String) : Run String :=
  (Config.effective config variableValue).resolve

/-- A check bound to a configuration, or unbound and then led by the variable at each use. -/
structure Checker where
  config : Option Config := none
deriving DecidableEq, Repr

namespace Checker

def minimumVersion (checker : Checker) (variableValue : Option String) : Run String :=
  (Config.effective checker.config variableValue).resolve

def check (checker : Checker) (versioner : Versioner) (variableValue : Option String) : Run Unit :=
  checkMinimumVersion versioner (some (Config.effective checker.config variableValue)) variableValue

def describe (checker : Checker) (variableValue : Option String) : Run String := do
  let minimum ← checker.minimumVersion variableValue
  return "VersionChecker(minimum_version=" ++ Text.quoted minimum ++ ")"

end Checker

end VersionGate
