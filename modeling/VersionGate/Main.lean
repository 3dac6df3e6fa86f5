import Std.Time
import VersionGate.Cli.Program
import VersionGate.Value.Reader

/-! The program: it finds its surroundings, runs the command line over them and writes what the run
printed. It opens no connection; the version document of the cluster is read from the standard
input, and a cluster without one is out of reach. -/
namespace VersionGate.Main

def timestamp : IO String := do
  let now := Std.Time.DateTime.ofTimestamp (← Std.Time.Timestamp.now) Std.Time.TimeZone.ZoneRules.UTC
  return now.format "uuuu-MM-dd'T'HH:mm:ss.SSSSSS'Z'"

def randomId (width : Nat) : IO String := do
  return String.ofList (Text.hexDigits width (← IO.rand 1 (Nat.pow 16 width - 1)))

def endpoint (document : String) : Endpoint :=
  match Value.ofJson? document with
  | some value => .ofDocument value
  | none => .fails (.ofText .connection "no version document")

/-- What stands at a path; a directory cannot be read as text. -/
def kindOf (path : String) : IO (Option Cli.FileKind) := do
  try
    let _ ← IO.FS.readFile path
    return some .file
  catch
    | .noFileOrDirectory .. => return none
    | .inappropriateType .. => return some .directory
    | _ => return some .file

def findFiles (paths : List String) : IO Cli.Files := do
  let here : Cli.Files :=
    { workingDirectory := (Path.ofText (← IO.currentDir).toString).names }
  let mut known : List (List (List Char) × Cli.FileKind) := []
  for path in paths do
    let names := here.resolve path
    if let some kind ← kindOf (Path.absolute names).text then
      known := (names, kind) :: known
  return { here with kindOf := fun names => known.lookup names }

/-- The version document is asked for only by the check command. -/
def run (arguments : List String) : IO UInt32 := do
  let files ← findFiles (Cli.Program.kubeconfigPaths arguments.tail)
  let document ← if arguments.head? = some "check" then (← IO.getStdin).readToEnd else pure ""
  let surroundings : Cli.Surroundings :=
    { variableValue := ← IO.getEnv Config.variableName, files
      cluster :=
        { inCluster := some (.ofText .configuration "Service host/port is not set.")
          endpoint := endpoint document } }
  let execution := Cli.Program.execute surroundings arguments
  let stamp : Log.Stamp :=
    { timestamp := ← timestamp, traceId := ← randomId 32, spanId := ← randomId 16 }
  IO.print execution.output
  IO.eprint (execution.diagnostics stamp)
  match execution.run.outcome with
  | .ok code => return UInt32.ofNat code.number
  | .error failure =>
      IO.eprintln (failure.print.toOption.getD "<exception str() failed>")
      return UInt32.ofNat Cli.ExitCode.generalError.number

end VersionGate.Main

def main (arguments : List String) : IO UInt32 := VersionGate.Main.run arguments
