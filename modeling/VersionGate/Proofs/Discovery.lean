import VersionGate.Proofs.Retrieval

/-! What is found out about a cluster. Its configuration is loaded in one way and no other, whatever
the last load or the query fails with is what the whole fails with, and an answer is passed on with
all that is read of it. -/
namespace VersionGate

namespace Fields
variable {fields : Fields} {name : String}

theorem requiredText_eq_ok_iff {text : String} :
    requiredText name fields = .ok text ↔ fields.get? name = some (.text text) := by
  unfold requiredText
  split
  · rename_i held
    simp [held]
  · rename_i other held
    simpa [held] using fun same => other text same
  · rename_i held
    simp [held]

theorem optionalText_eq_ok_iff {text : Option String} {value : Value}
    (held : fields.get? name = some value) :
    optionalText name fields = .ok text ↔ value = .ofText? text := by
  rw [optionalText, held]
  cases value <;> cases text <;> simp [Value.ofText?]

end Fields

namespace ServerInfo

/-- Information is made of fields exactly if each of them gives its part. -/
theorem ofFields_eq_ok_iff {fields : Fields} {info : ServerInfo} : ofFields fields = .ok info ↔
    fields.requiredText "git_version" = .ok info.gitVersion ∧
      fields.optionalText "major" = .ok info.major ∧
      fields.optionalText "minor" = .ok info.minor ∧
      fields.optionalText "git_commit" = .ok info.gitCommit ∧
      fields.optionalText "platform" = .ok info.platform := by
  constructor
  · intro made
    unfold ofFields at made
    dsimp only at made
    split at made
    · rename_i version major minor commit platform
      obtain rfl := Except.ok.inj made
      exact ⟨version, major, minor, commit, platform⟩
    · contradiction
  · rintro ⟨version, major, minor, commit, platform⟩
    simp only [ofFields, version, major, minor, commit, platform]

/-- What is made of an answer says of each field that is read what the answer says. -/
theorem ofFields_known_iff {fields : Fields} {info : ServerInfo} :
    ofFields (Endpoint.known fields) = .ok info ↔ info.toFields = Endpoint.known fields := by
  rw [ofFields_eq_ok_iff, Fields.requiredText_eq_ok_iff, Cluster.get?_known (by decide),
    Fields.optionalText_eq_ok_iff (Cluster.get?_known (by decide)),
    Fields.optionalText_eq_ok_iff (Cluster.get?_known (by decide)),
    Fields.optionalText_eq_ok_iff (Cluster.get?_known (by decide)),
    Fields.optionalText_eq_ok_iff (Cluster.get?_known (by decide))]
  simp [toFields, Endpoint.known, fieldNames, eq_comm]

end ServerInfo

namespace Cluster
variable {cluster : Cluster} {file : Option Path} {context : Option String}

theorem Loading.unique (loading : Loading cluster context file loads result)
    (other : Loading cluster context file loads' result') : loads' = loads ∧ result' = result := by
  have same := other.eq.symm.trans loading.eq
  have sameLoads := congrArg Run.loads same
  rw [loads_map_load, loads_map_load] at sameLoads
  exact ⟨sameLoads, congrArg Run.outcome same⟩

/-- The default file is the second choice, for the one reason that there is no cluster around. -/
theorem Loading.mem_default_iff (loading : Loading cluster context none loads result) :
    .kubeconfig none context ∈ loads ↔
      ∃ wording, cluster.inCluster = some (.fault .configuration wording) := by
  cases loading with
  | inside noFailure => simp [noFailure]
  | outside failed => simp [failed]
  | stopped failed other => simpa [failed] using other

/-- A question that is answered ends with what the answer says. -/
theorem outcome_ask_answers_iff {fields : Fields} {info : ServerInfo} :
    (Versioner.ofEndpoint (.answers fields)).ask.outcome = .ok info ↔
      info.toFields = Endpoint.known fields := by
  rw [outcome_ask_answers, ← ServerInfo.ofFields_known_iff]
  cases ServerInfo.ofFields (Endpoint.known fields) with
  | ok made =>
    constructor
    · intro same
      exact congrArg Except.ok (Except.ok.inj same)
    · intro same
      exact congrArg Except.ok (Except.ok.inj same)
  | error e => exact iff_of_false nofun nofun

theorem invalid_of_ask_answers {fields : Fields} {failure : Failure}
    (refused : (Versioner.ofEndpoint (.answers fields)).ask.outcome = .error failure) :
    ∃ e, failure = .invalid e := by
  rw [outcome_ask_answers] at refused
  cases made : ServerInfo.ofFields (Endpoint.known fields) with
  | ok info =>
    rw [made] at refused
    contradiction
  | error e =>
    rw [made] at refused
    exact ⟨e, (Except.error.inj refused).symm⟩

/-- The configuration of a cluster is loaded by the one rule that applies, and the cluster is queried
once if the last load returned and else not at all. Whatever the last load or the query fails with is
the failure of the whole, and an answer that can be read is passed on field by field. -/
theorem discovery_single_path (cluster : Cluster) (file : Option Path) (context : Option String) :
    ∃ loads last, Loading cluster context file loads last ∧
      (∀ others other, Loading cluster context file others other →
        others = loads ∧ other = last) ∧
      .versionQuery ∉ loads ∧
      (file = none → (.kubeconfig none context ∈ loads ↔
        ∃ wording, cluster.inCluster = some (.fault .configuration wording))) ∧
      (∀ failure, last = .error failure →
        (cluster.discover file context).loads = loads ∧
        (cluster.discover file context).outcome = .error failure) ∧
      (last = .ok () →
        (cluster.discover file context).loads = loads ++ [.versionQuery] ∧
        (∀ failure, cluster.endpoint = .fails failure →
          (cluster.discover file context).outcome = .error failure) ∧
        ∀ fields, cluster.endpoint = .answers fields →
          (∀ info, (cluster.discover file context).outcome = .ok info ↔
            info.toFields = Endpoint.known fields) ∧
          ∀ failure, (cluster.discover file context).outcome = .error failure →
            ∃ e, failure = .invalid e) := by
  obtain ⟨loads, last, loading⟩ := loading_total cluster file context
  refine ⟨loads, last, loading, fun _ _ => loading.unique, loading.not_mem_versionQuery, ?_, ?_, ?_⟩
  · rintro rfl
    exact loading.mem_default_iff
  · rintro failure rfl
    rw [discover_of_unloaded loading]
    exact ⟨loads_map_load _ _, rfl⟩
  · rintro rfl
    refine ⟨loads_discover_of_loaded loading, ?_, ?_⟩
    · intro failure fails
      rw [discover_of_loaded loading, fails]
      rfl
    · intro fields answers
      rw [discover_of_loaded loading, answers]
      exact ⟨fun _ => outcome_ask_answers_iff, fun _ => invalid_of_ask_answers⟩

/-- There is no cluster around the program, the default file is there, and the answer leaves out what
need not be in it. -/
theorem discovery_single_path_default :
    let cluster : Cluster :=
      { inCluster := some (.ofText .configuration "Service host/port is not set.")
        endpoint := .answers [("platform", .text "linux/amd64"), ("git_version", .text "v1.29.2"),
          ("go_version", .text "go1.21.7"), ("major", .null)] }
    let info : ServerInfo := { gitVersion := "v1.29.2", platform := some "linux/amd64" }
    Loading cluster (some "staging") none [.inCluster, .kubeconfig none (some "staging")] (.ok ()) ∧
    (cluster.discover none (some "staging")).loads =
      [.inCluster, .kubeconfig none (some "staging"), .versionQuery] ∧
    info.toFields = Endpoint.known [("platform", .text "linux/amd64"),
      ("git_version", .text "v1.29.2"), ("go_version", .text "go1.21.7"), ("major", .null)] ∧
    (cluster.discover none (some "staging")).outcome = .ok info := by
  intro cluster info
  have loading : Loading cluster (some "staging") none
      [.inCluster, .kubeconfig none (some "staging")] (.ok ()) := .outside rfl
  obtain ⟨loads, last, _, unique, _, _, _, answered⟩ :=
    discovery_single_path cluster none (some "staging")
  obtain ⟨rfl, rfl⟩ := unique _ _ loading
  obtain ⟨made, _, read⟩ := answered rfl
  obtain ⟨told, _⟩ := read _ rfl
  exact ⟨loading, made, rfl, (told info).mpr rfl⟩

end Cluster

end VersionGate
