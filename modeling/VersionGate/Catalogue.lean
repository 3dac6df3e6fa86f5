import VersionGate.Config
import VersionGate.MissingPart
import VersionGate.Release
import VersionGate.Value

/-! The names that the package answers to. A constant is given by its text and a definition by its
home and its name there; what lacks one of the two is no entry, though its name is known. -/
namespace VersionGate.Catalogue

inductive Entry where
  | constant (text : String)
  /-- A definition, by the place that holds it, if any, and its name there. -/
  | definition (home : Option String) (name : String)
deriving DecidableEq, Repr

def package : String := MissingPart.package

def home (chapter : String) : String := package ++ "." ++ chapter

def homePart : String := "__module__"

def namePart : String := "__name__"

def about : String :=
  "\n".intercalate
    ["floe-k8s-version: Kubernetes minimum version check for floe.",
      "",
      "Verifies at startup that the cluster's Kubernetes version satisfies the",
      "minimum version floe requires. The minimum defaults to v1.18.0 and can be",
      "overridden with the KUBERNETES_MIN_VERSION environment variable.",
      "",
      "Example:",
      "    >>> from floe_k8s_version import check_minimum_version, load_kubernetes_versioner",
      "    >>> check_minimum_version(load_kubernetes_versioner())",
      ""]

def constants : List (String × String) :=
  [(namePart, package), ("__package__", package), ("__doc__", about),
    ("__version__", Release.version), ("DEFAULT_MINIMUM_VERSION", Config.defaultMinimum),
    ("KUBERNETES_MIN_VERSION_KEY", Config.variableName)]

def chapters : List (String × List String) :=
  [("checker", ["ServerVersionInfo", "ServerVersionInterface", "VersionChecker",
      "check_minimum_version", "compare_versions"]),
    ("cli", []),
    ("config", ["VersionCheckConfig", "get_minimum_version"]),
    ("discovery", ["KubernetesVersioner", "load_kubernetes_versioner"]),
    ("errors", ["IncompatibleVersionError", "VersionCheckError", "VersionParseError"]),
    ("logging", []),
    ("semver", ["SemanticVersion", "normalize_version", "parse_version"]),
    ("tracing", [])]

/-- Definitions that every package answers to, or that are at home outside the chapters. -/
def others : List (String × Option String × String) :=
  [("__class__", some "builtins", "module"), ("Any", some "typing", "Any"),
    ("__getattr__", some package, "__getattr__")]
  ++ ["__dir__", "__format__", "__getstate__", "__init_subclass__", "__new__", "__reduce__",
      "__reduce_ex__", "__sizeof__", "__subclasshook__"].map fun name => (name, none, name)

/-- Things that are no definitions, by their kind, with the first part of a definition that each
lacks. -/
def things : List (String × String × String) :=
  [("annotations", "_Feature", namePart), ("__loader__", "SourceFileLoader", namePart),
    ("__spec__", "ModuleSpec", namePart)]
  ++ ["__all__", "__path__"].map (fun name => (name, (Value.list []).kindName, homePart))
  ++ ["__annotations__", "__builtins__", "__dict__"].map
    (fun name => (name, (Value.object []).kindName, homePart))
  ++ ["__delattr__", "__eq__", "__ge__", "__getattribute__", "__gt__", "__hash__", "__init__",
      "__le__", "__lt__", "__ne__", "__repr__", "__setattr__", "__str__"].map
    fun name => (name, "method-wrapper", homePart)

/-- What each known name leads to. A chapter has a name, but no home. -/
def known : List (String × Except MissingPart Entry) :=
  constants.map (fun (name, text) => (name, .ok (.constant text)))
  ++ chapters.flatMap (fun (chapter, names) =>
      names.map fun name => (name, .ok (.definition (some (home chapter)) name)))
  ++ chapters.map (fun (chapter, _) => (chapter, .error ⟨.chapter (home chapter), homePart⟩))
  ++ others.map (fun (name, place, title) => (name, .ok (.definition place title)))
  ++ things.map fun (name, kind, part) => (name, .error ⟨.thing kind, part⟩)

def find (name : String) : Except MissingPart Entry :=
  (known.lookup name).getD (.error ⟨.package, name⟩)

end VersionGate.Catalogue
