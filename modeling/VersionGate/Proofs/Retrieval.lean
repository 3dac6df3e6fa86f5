import VersionGate.Cluster
import VersionGate.Proofs.Effects

/-! How the version of a cluster is retrieved, for every behaviour of its loaders and its endpoint:
which loads are made, in order, and what the whole ends with. The rules are exclusive, so the loads
and the outcome of a retrieval are those of the one rule that applies. -/
namespace VersionGate.Cluster

/-- What a loader ends with that fails with the given failure, if any. -/
def ended : Option Failure → Except Failure Unit
  | none => .ok ()
  | some failure => .error failure

/-- Loading a configuration. A file that is named is loaded alone. Otherwise the default file is
loaded only if there is no cluster around the program; any other failure stops it. -/
inductive Loading (cluster : Cluster) (context : Option String) :
    Option Path → List Load → Except Failure Unit → Prop where
  | file {path : Path} : Loading cluster context (some path) [.kubeconfig (some path) context]
      (ended cluster.kubeconfig)
  | inside : cluster.inCluster = none → Loading cluster context none [.inCluster] (.ok ())
  | outside {wording : Wording} : cluster.inCluster = some (.fault .configuration wording) →
      Loading cluster context none [.inCluster, .kubeconfig none context] (ended cluster.kubeconfig)
  | stopped {failure : Failure} : cluster.inCluster = some failure →
      (∀ wording, failure ≠ .fault .configuration wording) →
      Loading cluster context none [.inCluster] (.error failure)

/-- Asking for the version, once a configuration is loaded: the endpoint is queried once, and its
answer is refused unless the version in it is a text and all else that is read is text or null. -/
inductive Retrieval (cluster : Cluster) (file : Option Path) (context : Option String) :
    List Load → Except Failure ServerInfo → Prop where
  | unloaded {failure : Failure} : Loading cluster context file loads (.error failure) →
      Retrieval cluster file context loads (.error failure)
  | unanswered {failure : Failure} : Loading cluster context file loads (.ok ()) →
      cluster.endpoint = .fails failure →
      Retrieval cluster file context (loads ++ [.versionQuery]) (.error failure)
  | refused {e : Invalid} : Loading cluster context file loads (.ok ()) →
      cluster.endpoint = .answers fields → ServerInfo.ofFields (Endpoint.known fields) = .error e →
      Retrieval cluster file context (loads ++ [.versionQuery]) (.error (.invalid e))
  | answered {info : ServerInfo} : Loading cluster context file loads (.ok ()) →
      cluster.endpoint = .answers fields → ServerInfo.ofFields (Endpoint.known fields) = .ok info →
      Retrieval cluster file context (loads ++ [.versionQuery]) (.ok info)

open Run (Only)
variable {cluster : Cluster} {file : Option Path} {context : Option String}

theorem loadKubeconfig_eq (file : Option Path) : cluster.loadKubeconfig file context =
    ⟨ended cluster.kubeconfig, [.load (.kubeconfig file context)]⟩ := by
  unfold loadKubeconfig
  cases cluster.kubeconfig <;> rfl

theorem loadInCluster_eq :
    cluster.loadInCluster = ⟨ended cluster.inCluster, [.load .inCluster]⟩ := by
  unfold loadInCluster
  cases cluster.inCluster <;> rfl

theorem Loading.eq (loading : Loading cluster context file loads result) :
    cluster.loadConfiguration file context = ⟨result, loads.map .load⟩ := by
  cases loading with
  | file => exact loadKubeconfig_eq _
  | inside noFailure =>
    simp only [loadConfiguration, loadInCluster_eq, noFailure]
    rfl
  | outside failed =>
    simp only [loadConfiguration, loadInCluster_eq, failed, loadKubeconfig_eq]
    rfl
  | stopped failed other =>
    simp only [loadConfiguration, loadInCluster_eq, failed, ended, Run.attempt_bind,
      Failure.isConfiguration_eq_false other]
    rfl

theorem loading_total (cluster : Cluster) (file : Option Path) (context : Option String) :
    ∃ loads result, Loading cluster context file loads result := by
  cases file with
  | some path => exact ⟨_, _, .file⟩
  | none =>
    cases failed : cluster.inCluster with
    | none => exact ⟨_, _, .inside failed⟩
    | some failure =>
      by_cases configuration : ∃ wording, failure = .fault .configuration wording
      · obtain ⟨wording, rfl⟩ := configuration
        exact ⟨_, _, .outside failed⟩
      · exact ⟨_, _, .stopped failed fun wording same => configuration ⟨wording, same⟩⟩

theorem outcome_ask_answers (fields : Fields) :
    (Versioner.ofEndpoint (.answers fields)).ask.outcome =
      (ServerInfo.ofFields (Endpoint.known fields)).mapError .invalid := by
  simp only [Versioner.ask, Versioner.ofEndpoint, Run.load, Run.record, Run.perform_bind]
  cases ServerInfo.ofFields (Endpoint.known fields) <;> rfl

theorem loads_ask (endpoint : Endpoint) :
    (Versioner.ofEndpoint endpoint).ask.loads = [.versionQuery] := by
  cases endpoint with
  | fails failure => rfl
  | answers fields =>
    simp only [Versioner.ask, Versioner.ofEndpoint, Run.load, Run.record, Run.perform_bind]
    cases ServerInfo.ofFields (Endpoint.known fields) <;> rfl

theorem loads_map_load (result : Except Failure α) (loads : List Load) :
    Run.loads ⟨result, loads.map .load⟩ = loads :=
  List.filterMap_map.trans (List.filterMap_some)

theorem discover_of_unloaded {failure : Failure}
    (loading : Loading cluster context file loads (.error failure)) :
    cluster.discover file context = ⟨.error failure, loads.map .load⟩ := by
  rw [discover, versioner, loading.eq]
  rfl

theorem versioner_of_loaded (loading : Loading cluster context file loads (.ok ())) :
    cluster.versioner file context =
      ⟨.ok (Versioner.ofEndpoint cluster.endpoint), loads.map .load⟩ := by
  rw [versioner, loading.eq]
  exact Run.ext rfl (List.append_nil _)

theorem discover_of_loaded (loading : Loading cluster context file loads (.ok ())) :
    cluster.discover file context = ⟨(Versioner.ofEndpoint cluster.endpoint).ask.outcome,
      loads.map .load ++ (Versioner.ofEndpoint cluster.endpoint).ask.effects⟩ := by
  rw [discover, versioner_of_loaded loading]
  rfl

theorem loads_discover_of_loaded (loading : Loading cluster context file loads (.ok ())) :
    (cluster.discover file context).loads = loads ++ [.versionQuery] := by
  rw [discover, versioner_of_loaded loading, Run.loads_bind_of_ok rfl, loads_map_load, loads_ask]

theorem Retrieval.eq (retrieval : Retrieval cluster file context loads result) :
    (cluster.discover file context).loads = loads ∧
      (cluster.discover file context).outcome = result := by
  cases retrieval with
  | unloaded loading =>
    rw [discover_of_unloaded loading]
    exact ⟨loads_map_load _ _, rfl⟩
  | unanswered loading failed =>
    refine ⟨loads_discover_of_loaded loading, ?_⟩
    rw [discover_of_loaded loading, failed]
    rfl
  | refused loading answers refused =>
    refine ⟨loads_discover_of_loaded loading, ?_⟩
    rw [discover_of_loaded loading, answers, outcome_ask_answers, refused]
    rfl
  | answered loading answers read =>
    refine ⟨loads_discover_of_loaded loading, ?_⟩
    rw [discover_of_loaded loading, answers, outcome_ask_answers, read]
    rfl

theorem retrieval_total (cluster : Cluster) (file : Option Path) (context : Option String) :
    ∃ loads result, Retrieval cluster file context loads result := by
  obtain ⟨loads, failure | _, loading⟩ := loading_total cluster file context
  · exact ⟨_, _, .unloaded loading⟩
  · cases answer : cluster.endpoint with
    | fails failure => exact ⟨_, _, .unanswered loading answer⟩
    | answers fields =>
      cases read : ServerInfo.ofFields (Endpoint.known fields) with
      | error e => exact ⟨_, _, .refused loading answer read⟩
      | ok info => exact ⟨_, _, .answered loading answer read⟩

/-- The loads and the outcome of a retrieval are those that the rules give, and no others. -/
theorem retrieval_iff : Retrieval cluster file context loads result ↔
    (cluster.discover file context).loads = loads ∧
      (cluster.discover file context).outcome = result := by
  refine ⟨Retrieval.eq, ?_⟩
  rintro ⟨rfl, rfl⟩
  obtain ⟨loads, result, retrieval⟩ := retrieval_total cluster file context
  obtain ⟨rfl, rfl⟩ := retrieval.eq
  exact retrieval

theorem noPrint_ask (endpoint : Endpoint) :
    (Versioner.ofEndpoint endpoint).ask.Only Effect.NoPrint := by
  refine Only.bind (Only.perform nofun) fun _ => Only.bind (Only.perform nofun) fun _ => ?_
  cases endpoint with
  | fails failure => exact Only.fail failure
  | answers fields => exact Only.bind (Only.perform nofun) fun _ => Only.ofExcept _

theorem noPrint_discover (cluster : Cluster) (file : Option Path) (context : Option String) :
    (cluster.discover file context).Only Effect.NoPrint := by
  have loaded (loads : List Load) : ∀ effect ∈ loads.map Effect.load, effect.NoPrint := by
    intro effect member
    obtain ⟨l, _, rfl⟩ := List.mem_map.mp member
    nofun
  obtain ⟨loads, failure | _, loading⟩ := cluster.loading_total file context
  · rw [discover_of_unloaded loading]
    exact loaded loads
  · rw [discover_of_loaded loading]
    exact List.forall_mem_append.mpr ⟨loaded loads, noPrint_ask _⟩

theorem only_discover (cluster : Cluster) (file : Option Path) (context : Option String) :
    (cluster.discover file context).Only Effect.NoResult :=
  (cluster.noPrint_discover file context).mono fun _ => Effect.NoPrint.noResult

/-- A field that is read and that an answer does not give is null. -/
theorem get?_known {fields : Fields} {name : String} (read : name ∈ ServerInfo.fieldNames) :
    (Endpoint.known fields).get? name = some ((fields.get? name).getD .null) := by
  simp only [ServerInfo.fieldNames, List.mem_cons, List.not_mem_nil, or_false] at read
  rcases read with rfl | rfl | rfl | rfl | rfl <;> rfl

/-- An answer that gives no text for the version is refused, whatever else is in it, and the version
is the first that is wrong with it. -/
theorem ofFields_of_no_version {fields : Fields}
    (noText : ∀ text, fields.get? "git_version" ≠ some (.text text)) :
    ∃ others, ServerInfo.ofFields (Endpoint.known fields) = .error
      { record := "ServerVersionInfo"
        issues := ⟨"git_version", .notText, (fields.get? "git_version").getD .null⟩ :: others } := by
  have issue : (Endpoint.known fields).requiredText "git_version" =
      .error ⟨"git_version", .notText, (fields.get? "git_version").getD .null⟩ := by
    rw [Fields.requiredText, get?_known (by decide)]
    cases given : fields.get? "git_version" with
    | none => rfl
    | some value =>
      cases value with
      | text text => exact absurd given (noText text)
      | _ => rfl
  rw [ServerInfo.ofFields, issue]
  exact ⟨_, rfl⟩

theorem Loading.not_mem_versionQuery (loading : Loading cluster context file loads result) :
    .versionQuery ∉ loads := by
  cases loading <;> simp

/-- No version is known without a query, and none is asked for twice. -/
theorem Retrieval.count_versionQuery {info : ServerInfo}
    (retrieval : Retrieval cluster file context loads (.ok info)) :
    loads.count .versionQuery = 1 := by
  cases retrieval with
  | answered loading _ _ =>
    rw [List.count_append, List.count_eq_zero.mpr loading.not_mem_versionQuery]
    rfl

end VersionGate.Cluster
