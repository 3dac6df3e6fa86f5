import VersionGate.Cli.Report
import VersionGate.Check
import VersionGate.Cluster
import VersionGate.Log.Layout

/-! The check command. It asks the cluster once, checks the very answer it got, and ends with a code
that tells a failed retrieval, a bad minimum and a refused version apart. -/
namespace VersionGate.Cli

structure CheckOptions where
  kubeconfig : Option Path := none
  context : Option String := none
  minVersion : Option String := none
  format : Format := .text
  verbose : Bool := false
deriving DecidableEq, Repr

namespace CheckOptions

def config (options : CheckOptions) : Config :=
  { minVersion := options.minVersion.filter fun text => !text.isEmpty }

/-- The code and the text for the outcome of a comparison; other failures are not reported here. -/
def verdict : Except Failure Unit → Except Failure (ExitCode × Option String)
  | .ok () => .ok (.success, none)
  | .error (.check (.malformed version role reason) _) =>
      .ok (if role = Comparison.Role.minimum.name then .usageError else .validationError,
        some (CheckError.malformed version role reason).message)
  | .error (.check (.incompatible current minimum overrideKey prerelease) _) =>
      .ok (.validationError,
        some (CheckError.incompatible current minimum overrideKey prerelease).message)
  | .error failure => .error failure

/-- A retrieval that failed is reported by the kind of its failure and nothing else. -/
def reportRetrieval (failure : Failure) : Run ExitCode := do
  Run.record .error "version_check.retrieval_failed" [("error_type", .text failure.name)]
  Notice.errorExit ("Failed to retrieve Kubernetes version: " ++ failure.name) .networkError []

def progress (options : CheckOptions) (message : String) : Run Unit :=
  if options.verbose then Notice.info message else pure ()

def judge (options : CheckOptions) (minimum : String) (info : ServerInfo) : Run ExitCode := do
  let outcome ← Run.attempt
    (checkMinimumVersion (Versioner.resolved info) (some options.config) none)
  let (code, error) ← Run.ofExcept (verdict outcome)
  Report.emit { current := info.gitVersion, minimum, error } options.format
  return code

def run (options : CheckOptions) (cluster : Cluster) : Run ExitCode := do
  let minimum ← options.config.resolve
  options.progress "Connecting to Kubernetes cluster..."
  match ← Run.attempt (cluster.discover options.kubeconfig options.context) with
  | .error failure =>
      if failure.isInterrupt then Run.fail failure else reportRetrieval failure
  | .ok info =>
      options.progress ("Server version: " ++ info.gitVersion)
      options.judge minimum info

/-- Progress shows all records, otherwise only warnings and errors are written. -/
def logSettings (options : CheckOptions) : Log.Settings :=
  { threshold := if options.verbose then Log.Level.debug.weight else Log.Level.warning.weight
    layout := .console }

end CheckOptions

end VersionGate.Cli
