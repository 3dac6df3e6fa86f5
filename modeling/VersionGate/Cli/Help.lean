/-! The help of the program and of its command, and the usage lines above an error. -/
namespace VersionGate.Cli.Help

def programName : String := "floe-k8s-version"

/-- A command as its usage shows it: its path, and the form of its arguments. -/
structure Usage where
  path : String
  form : String

def groupUsage : Usage := ⟨programName, "[OPTIONS] COMMAND [ARGS]..."⟩

def checkUsage : Usage := ⟨programName ++ " check", "[OPTIONS]"⟩

def Usage.line (u : Usage) : String := "Usage: " ++ u.path ++ " " ++ u.form

def Usage.hint (u : Usage) : String := "Try '" ++ u.path ++ " --help' for help."

def group : String :=
  "\n".intercalate
    [groupUsage.line,
      "",
      "  Kubernetes version compatibility checks for floe.",
      "",
      "Options:",
      "  --version   Show the version and exit.",
      "  -h, --help  Show this message and exit.",
      "",
      "Commands:",
      "  check  Check the cluster's Kubernetes version against the minimum...",
      "",
      "  Use 'floe-k8s-version <command> --help' for command-specific help."]

def check : String :=
  "\n".intercalate
    [checkUsage.line,
      "",
      "  Check the cluster's Kubernetes version against the minimum required.",
      "",
      "Options:",
      "  --kubeconfig PATH         Path to kubeconfig file.",
      "  --context TEXT            Kubernetes context to use.",
      "  --min-version VERSION     Minimum Kubernetes version [env:",
      "                            KUBERNETES_MIN_VERSION].",
      "  -o, --output-format TEXT  Output format.",
      "  -v, --verbose             Show connection progress.",
      "  -h, --help                Show this message and exit.",
      "",
      "  The minimum version defaults to v1.18.0 and can be overridden with --min-",
      "  version or the KUBERNETES_MIN_VERSION environment variable. A minimum",
      "  without a pre-release part also admits pre-releases of the same version",
      "  (v1.18.0 behaves as v1.18.0-0).",
      "",
      "  Examples:     $ floe-k8s-version check     $ floe-k8s-version check",
      "  --kubeconfig ~/.kube/config --context kind     $ floe-k8s-version check",
      "  --min-version v1.25.0 --output-format json"]

end VersionGate.Cli.Help
