import VersionGate.Config
import VersionGate.Version.Parser
import VersionGate.Version.Printer
import VersionGate.Version.Precedence

/-! The decision of a check: whether a current version is at least a minimum. Both are given as
text; the current version is read first. -/
namespace VersionGate.Comparison

inductive Role where
  | current | minimum
deriving DecidableEq, Repr

def Role.name : Role → String
  | .current => "current"
  | .minimum => "minimum"

def readAs (role : Role) (text : String) : Run Version :=
  match Version.read text with
  | .ok v => pure v
  | .error e => do
      Run.record .warning "version_check.parse_failed"
        [("role", .text role.name), ("version", .text text), ("error", .text e.message)]
      Run.fail (.check (.malformed text role.name e.message) (some e))

def leastAdmitted (minimum : Version) : Run Version :=
  Run.ofExcept (minimum.floor.mapError Failure.ofVersion)

def textOf (v : Version) : Run String :=
  Run.ofExcept (v.print.mapError fun e => Failure.ofVersion (.tooLarge e))

def judge (current least : Version) (overrideKey : String) : Run Unit := do
  let currentText ← textOf current
  let leastText ← textOf least
  if current.precedes least then
    Run.record .error "version_check.incompatible"
      [("current_version", .text currentText), ("minimum_version", .text leastText),
        ("prerelease", .bool current.isPrerelease)]
    Run.fail (.check (.incompatible currentText leastText overrideKey current.isPrerelease) none)
  else
    Run.record .debug "version_check.passed"
      [("current_version", .text currentText), ("minimum_version", .text leastText)]

/-- Fails unless `current` is a version and at least the floor of `minimum`. -/
def compareVersions (current minimum : String) (overrideKey : String) : Run Unit := do
  let current ← readAs .current current
  let minimum ← readAs .minimum minimum
  let least ← leastAdmitted minimum
  judge current least overrideKey

end VersionGate.Comparison
