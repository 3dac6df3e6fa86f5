import VersionGate.Cli.Notice
import VersionGate.Value.Json

/-! What the check command reports, as text or as JSON. -/
namespace VersionGate.Cli

inductive Format where
  | text | json
deriving DecidableEq, Repr

/-- The versions as they were given, and the text of the error if the check failed. -/
structure Report where
  current : String
  minimum : String
  error : Option String := none
deriving DecidableEq, Repr

namespace Report

def compatible (report : Report) : Bool := report.error.isNone

def toFields (report : Report) : Fields :=
  [("compatible", .bool report.compatible), ("current_version", .text report.current),
    ("minimum_version", .text report.minimum), ("error", .ofText? report.error)]

/-- JSON goes to the output channel whatever the verdict; as text, an error goes to diagnostics. -/
def emit (report : Report) : Format → Run Unit
  | .json => Notice.success (Value.jsonLines report.toFields)
  | .text =>
      match report.error with
      | none => Notice.success
          ("✓ Kubernetes version " ++ report.current ++ " meets minimum " ++ report.minimum)
      | some error => Notice.error ("✗ " ++ error) []

end Report

end VersionGate.Cli
