import VersionGate.Failure

/-! The version of the program itself. -/
namespace VersionGate.Release

def version : String := "0.1.0"

/-- The version by the installed metadata. Where they cannot be read it is unknown, but an interrupt
while reading them is passed on. -/
def installed : Except Failure String → Except Failure String
  | .ok version => .ok version
  | .error failure => if failure.isInterrupt then .error failure else .ok "unknown"

end VersionGate.Release
