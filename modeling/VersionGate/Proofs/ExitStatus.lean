import VersionGate.Proofs.CheckCommand

/-! The exit status of a check, for every command line that runs one and every behaviour of the
cluster. A status tells in which of the steps the check ended, and there is one for each end: no
failure gets out of the program. -/
namespace VersionGate.Cli

/-- What each status stands for. The version that was retrieved is looked at before the minimum. -/
inductive ExitStatus (cluster : Cluster) (file : Option Path) (context : Option String)
    (minimum : String) : Nat → Prop where
  | unreachable {failure : Failure} : cluster.Retrieval file context loads (.error failure) →
      (∀ wording, failure ≠ .fault .interrupt wording) → ExitStatus cluster file context minimum 8
  | interrupted {wording : Wording} :
      cluster.Retrieval file context loads (.error (.fault .interrupt wording)) →
      ExitStatus cluster file context minimum 1
  | malformedVersion {info : ServerInfo} : cluster.Retrieval file context loads (.ok info) →
      Version.read info.gitVersion = .error e → ExitStatus cluster file context minimum 5
  | malformedMinimum {info : ServerInfo} : cluster.Retrieval file context loads (.ok info) →
      Version.read info.gitVersion = .ok v → Version.read minimum = .error e →
      ExitStatus cluster file context minimum 2
  | tooLow {info : ServerInfo} {v m : Version} : cluster.Retrieval file context loads (.ok info) →
      Version.read info.gitVersion = .ok v → Version.read minimum = .ok m → v.Below m.lowest →
      ExitStatus cluster file context minimum 5
  | admitted {info : ServerInfo} {v m : Version} : cluster.Retrieval file context loads (.ok info) →
      Version.read info.gitVersion = .ok v → Version.read minimum = .ok m → ¬ v.Below m.lowest →
      ExitStatus cluster file context minimum 0

theorem exitStatus_total (cluster : Cluster) (file : Option Path) (context : Option String)
    (minimum : String) : ∃ n, ExitStatus cluster file context minimum n := by
  obtain ⟨loads, failure | info, retrieval⟩ := cluster.retrieval_total file context
  · by_cases interrupt : ∃ wording, failure = .fault .interrupt wording
    · obtain ⟨wording, rfl⟩ := interrupt
      exact ⟨_, .interrupted retrieval⟩
    · exact ⟨_, .unreachable retrieval fun wording same => interrupt ⟨wording, same⟩⟩
  · cases versionRead : Version.read info.gitVersion with
    | error e => exact ⟨_, .malformedVersion retrieval versionRead⟩
    | ok v =>
      cases minimumRead : Version.read minimum with
      | error e => exact ⟨_, .malformedMinimum retrieval versionRead minimumRead⟩
      | ok m =>
        by_cases below : v.Below m.lowest
        · exact ⟨_, .tooLow retrieval versionRead minimumRead below⟩
        · exact ⟨_, .admitted retrieval versionRead minimumRead below⟩

namespace Program
variable {surroundings : Surroundings} {given : List (Given CheckOption)} {options : CheckOptions}

theorem status_of_verdict (runs : RunsCheck surroundings arguments given options)
    (retrieval : surroundings.cluster.Retrieval options.kubeconfig options.context loads (.ok info))
    (verdict : Comparison.Verdict info.gitVersion options.config.minimum Config.variableName result)
    (judged : CheckOptions.verdict result = .ok (code, error)) :
    (execute surroundings arguments).status = .ok code.number := by
  have found : CheckOptions.verdict (options.finding info) = .ok (code, error) := by
    rw [CheckOptions.finding, verdict.outcome, judged]
  exact (runs.ran retrieval.eq.2 found).1

/-- A status that a rule gives is the status of the run. -/
theorem status_of_exitStatus (runs : RunsCheck surroundings arguments given options)
    (status : ExitStatus surroundings.cluster options.kubeconfig options.context
      options.config.minimum n) : (execute surroundings arguments).status = .ok n := by
  cases status with
  | unreachable retrieval other =>
    have ended := CheckOptions.run_of_failed retrieval.eq.2
    rw [Failure.isInterrupt_eq_false other, if_neg Bool.false_ne_true] at ended
    exact runs.status_of_ok ended
  | interrupted retrieval =>
    have ended := CheckOptions.run_of_failed retrieval.eq.2
    rw [Execution.status, runs.execute, outcome_guarded_of_interrupt ended]
    rfl
  | malformedVersion retrieval versionRead =>
    exact status_of_verdict runs retrieval (.malformedCurrent versionRead) rfl
  | malformedMinimum retrieval versionRead minimumRead =>
    exact status_of_verdict runs retrieval (.malformedMinimum versionRead minimumRead) rfl
  | tooLow retrieval versionRead minimumRead below =>
    exact status_of_verdict runs retrieval (.tooLow versionRead minimumRead below) rfl
  | admitted retrieval versionRead minimumRead notBelow =>
    exact status_of_verdict runs retrieval (.admitted versionRead minimumRead notBelow) rfl

/-- A check exits with the one status whose rule applies, and it always does. An answer of the
cluster without a text for its version counts as a failed retrieval. -/
theorem check_status_iff (runs : RunsCheck surroundings arguments given options) :
    (∀ n, (execute surroundings arguments).status = .ok n ↔
      ExitStatus surroundings.cluster options.kubeconfig options.context
        (Config.inForce ((Arguments.last? given .minVersion).or surroundings.variableValue)) n) ∧
    (∃ n, (execute surroundings arguments).status = .ok n) ∧
    ∀ fields loads, surroundings.cluster.endpoint = .answers fields →
      (∀ text, fields.get? "git_version" ≠ some (.text text)) →
      surroundings.cluster.Loading options.context options.kubeconfig loads (.ok ()) →
      (execute surroundings arguments).status = .ok 8 := by
  rw [← runs.minimum]
  obtain ⟨status, applies⟩ := exitStatus_total surroundings.cluster options.kubeconfig
    options.context options.config.minimum
  have exits := status_of_exitStatus runs applies
  refine ⟨fun n => ⟨fun ended => ?_, status_of_exitStatus runs⟩, ⟨status, exits⟩, ?_⟩
  · obtain rfl : status = n := Except.ok.inj (exits.symm.trans ended)
    exact applies
  · intro fields loads answers noText loading
    obtain ⟨e, refused⟩ := Cluster.ofFields_of_no_version noText
    have retrieval := Cluster.Retrieval.refused loading answers refused
    exact status_of_exitStatus runs (.unreachable retrieval (by simp))

/-- A cluster reached by the default file, asked to be at least a version that is higher than the
variable says. -/
theorem check_status_too_low :
    let cluster : Cluster :=
      { inCluster := some (.fault .configuration .silent)
        endpoint := .answers [("git_version", .text "v1.19.0-rc.1")] }
    let surroundings : Surroundings := { variableValue := some "v1.18.0", cluster }
    RunsCheck surroundings ["check", "--min-version", "v1.19.0-rc.2"]
      [⟨.minVersion, some "v1.19.0-rc.2"⟩] { minVersion := some "v1.19.0-rc.2" } ∧
    (execute surroundings ["check", "--min-version", "v1.19.0-rc.2"]).status = .ok 5 := by
  intro cluster surroundings
  have runs := runsCheck_minVersion surroundings "v1.19.0-rc.2"
  have loading : cluster.Loading none none [.inCluster, .kubeconfig none none] (.ok ()) :=
    .outside rfl
  have retrieval : cluster.Retrieval none none _ (.ok { gitVersion := "v1.19.0-rc.1" }) :=
    .answered loading rfl rfl
  have version : Version.read "v1.19.0-rc.1" = .ok ⟨1, 19, 0, [.word "rc", .number 1], []⟩ := by
    decide +kernel
  have minimum : Version.read "v1.19.0-rc.2" = .ok ⟨1, 19, 0, [.word "rc", .number 2], []⟩ := by
    decide +kernel
  have below : Version.Below ⟨1, 19, 0, [.word "rc", .number 1], []⟩
      (Version.lowest ⟨1, 19, 0, [.word "rc", .number 2], []⟩) :=
    Version.precedes_iff_below.mp (by decide)
  exact ⟨runs, ((check_status_iff runs).1 5).mpr (.tooLow retrieval version minimum below)⟩

end Program
end VersionGate.Cli
