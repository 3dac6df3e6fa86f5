import VersionGate.Server

/-! Finding a cluster. An explicit configuration file is loaded alone; otherwise the configuration
of the cluster that the program runs in is tried, and the default file only if there is none. -/
namespace VersionGate

structure Cluster where
  inCluster : Option Failure := none
  kubeconfig : Option Failure := none
  endpoint : Endpoint := .answers []
deriving Repr

namespace Cluster

def loadInCluster (cluster : Cluster) : Run Unit := do
  Run.load .inCluster
  match cluster.inCluster with
  | some failure => Run.fail failure
  | none => return ()

def loadKubeconfig (cluster : Cluster) (file : Option Path) (context : Option String) : Run Unit := do
  Run.load (.kubeconfig file context)
  match cluster.kubeconfig with
  | some failure => Run.fail failure
  | none => return ()

def loadConfiguration (cluster : Cluster) (file : Option Path) (context : Option String) : Run Unit := do
  match file with
  | some file => cluster.loadKubeconfig (some file) context
  | none =>
      match ← Run.attempt cluster.loadInCluster with
      | .ok () => return ()
      | .error failure =>
          if failure.isConfiguration then cluster.loadKubeconfig none context
          else Run.fail failure

/-- The source of the cluster's version, once its configuration is loaded. -/
def versioner (cluster : Cluster) (file : Option Path) (context : Option String) : Run Versioner := do
  cluster.loadConfiguration file context
  return Versioner.ofEndpoint cluster.endpoint

def discover (cluster : Cluster) (file : Option Path) (context : Option String) : Run ServerInfo := do
  let versioner ← cluster.versioner file context
  versioner.ask

end Cluster

end VersionGate
