import VersionGate.Proofs.Checking
import VersionGate.Proofs.CommandLine
import VersionGate.Proofs.Retrieval

/-! A run of the check command, by how the retrieval ended. One that failed is reported as such and
nothing is compared. Otherwise the version that was retrieved is checked as it is, the report is the
last thing that the run does, and its error is that of the check. Before the report no result is
shown, and after the retrieval nothing is loaded. -/
namespace VersionGate.Cli
open Run (Only)

/-- The text of the error that a check ended with, or none if it passed. -/
def errorText : Except Failure Unit → Except Failure (Option String)
  | .ok () => .ok none
  | .error failure => failure.print.map some

theorem errorText_eq_none_iff : errorText result = .ok none ↔ result = .ok () := by
  cases result with
  | ok _ => exact iff_of_true rfl rfl
  | error failure => cases told : failure.print <;> simp [errorText, told, Except.map]

namespace Report

theorem outcome_emit (report : Report) (format : Format) :
    (report.emit format).outcome = .ok () := by
  cases format with
  | json => rfl
  | text => cases error : report.error <;> simp only [emit, error] <;> rfl

theorem only_emit {p : Effect → Prop} (prints : ∀ channel text, p (.print channel text))
    (report : Report) (format : Format) : (report.emit format).Only p := by
  cases format with
  | json => exact Only.perform (prints _ _)
  | text =>
    rw [emit]
    split
    · exact Only.perform (prints _ _)
    · exact Only.perform (prints _ _)

end Report

namespace CheckOptions
variable {options : CheckOptions} {cluster : Cluster} {info : ServerInfo}

/-- What the command compares the retrieved version to, and how that ends. -/
def finding (options : CheckOptions) (info : ServerInfo) : Except Failure Unit :=
  (Comparison.compareVersions info.gitVersion options.config.minimum Config.variableName).outcome

/-- All that a run does up to its report, if this is the version that it retrieves. -/
def beforeReport (options : CheckOptions) (cluster : Cluster) (info : ServerInfo) : List Effect :=
  options.config.resolve.effects
    ++ ((options.progress "Connecting to Kubernetes cluster...").effects
    ++ ((cluster.discover options.kubeconfig options.context).effects
    ++ ((options.progress ("Server version: " ++ info.gitVersion)).effects
    ++ (checkMinimumVersion (Versioner.resolved info) (some options.config) none).effects)))

theorem outcome_progress (options : CheckOptions) (message : String) :
    (options.progress message).outcome = .ok () := by
  rw [progress]
  split <;> rfl

theorem outcome_check (options : CheckOptions) (info : ServerInfo) :
    (checkMinimumVersion (Versioner.resolved info) (some options.config) none).outcome =
      options.finding info :=
  outcome_checkMinimumVersion rfl _ _

theorem judge_eq (judged : verdict (options.finding info) = .ok (code, error)) :
    options.judge minimum info = ⟨.ok code,
      (checkMinimumVersion (Versioner.resolved info) (some options.config) none).effects ++
        (Report.emit { current := info.gitVersion, minimum, error } options.format).effects⟩ := by
  have found : (Run.ofExcept (.ok (code, error)) : Run (ExitCode × Option String)) =
      pure (code, error) := rfl
  rw [judge, Run.attempt_bind, outcome_check, judged, found, pure_bind]
  dsimp only
  rw [Run.bind_of_ok (Report.outcome_emit _ _)]
  exact Run.ext rfl (congrArg (_ ++ ·) (List.append_nil _))

theorem run_of_failed {failure : Failure}
    (failed : (cluster.discover options.kubeconfig options.context).outcome = .error failure) :
    (options.run cluster).outcome =
      if failure.isInterrupt then .error failure else .ok .networkError := by
  rw [run, Run.bind_of_ok (Config.outcome_resolve _), Run.bind_of_ok (outcome_progress _ _),
    Run.attempt_bind, failed]
  dsimp only
  split <;> rfl

theorem run_of_answered
    (answered : (cluster.discover options.kubeconfig options.context).outcome = .ok info)
    (judged : verdict (options.finding info) = .ok (code, error)) :
    options.run cluster = ⟨.ok code, options.beforeReport cluster info ++
      (Report.emit { current := info.gitVersion, minimum := options.config.minimum, error }
        options.format).effects⟩ := by
  rw [run, Run.bind_of_ok (Config.outcome_resolve _), Run.bind_of_ok (outcome_progress _ _),
    Run.attempt_bind, answered]
  dsimp only
  rw [Run.bind_of_ok (outcome_progress _ _), judge_eq judged]
  simp [beforeReport]

theorem only_progress {p : Effect → Prop} (prints : ∀ text, p (.print .diagnostics text))
    (options : CheckOptions) (message : String) : (options.progress message).Only p := by
  rw [progress]
  split
  · exact Only.perform (prints _)
  · exact Only.pure _

theorem only_check (options : CheckOptions) (info : ServerInfo) :
    (checkMinimumVersion (Versioner.resolved info) (some options.config) none).Only
      Effect.OfCheck :=
  only_checkMinimumVersion (Only.pure info)

/-- Up to its report, a run shows nothing but its progress and what is logged. -/
theorem not_result_of_beforeReport {effect : Effect}
    (member : effect ∈ options.beforeReport cluster info) : effect.NoResult := by
  have progress (message : String) : (options.progress message).Only Effect.NoResult :=
    options.only_progress (fun _ => nofun) message
  have resolve := (Config.only_resolve options.config).mono fun _ => Effect.OfCheck.noResult
  have check := (options.only_check info).mono fun _ => Effect.OfCheck.noResult
  simp only [beforeReport, List.mem_append] at member
  rcases member with early | early | asked | late | late
  · exact resolve effect early
  · exact progress _ effect early
  · exact cluster.only_discover _ _ effect asked
  · exact progress _ effect late
  · exact check effect late

theorem only_judge (options : CheckOptions) (minimum : String) (info : ServerInfo) :
    (options.judge minimum info).Only Effect.NoLoad := by
  have check := (options.only_check info).mono fun _ => Effect.OfCheck.noLoad
  refine Only.bind check fun _ => Only.bind (Only.ofExcept _) fun _ => ?_
  exact Only.bind (Report.only_emit (fun _ _ _ => nofun) _ _) fun _ => Only.pure _

/-- Once the version is known, nothing more is asked for. -/
theorem loads_run_of_answered
    (answered : (cluster.discover options.kubeconfig options.context).outcome = .ok info) :
    (options.run cluster).loads = (cluster.discover options.kubeconfig options.context).loads := by
  have progress (message : String) : (options.progress message).Only Effect.NoLoad :=
    options.only_progress (fun _ _ => nofun) message
  have resolve := (Config.only_resolve options.config).mono fun _ => Effect.OfCheck.noLoad
  have after : (options.progress ("Server version: " ++ info.gitVersion) >>= fun _ =>
      options.judge options.config.minimum info).Only Effect.NoLoad :=
    Only.bind (progress _) fun _ => options.only_judge _ _
  rw [run, Run.loads_bind_of_ok (Config.outcome_resolve _), resolve.loads_eq_nil, List.nil_append,
    Run.loads_bind_of_ok (outcome_progress _ _), (progress _).loads_eq_nil, List.nil_append,
    Run.loads_bind_of_ok (a := .ok info) (congrArg _ answered), after.loads_eq_nil, List.append_nil]
  rfl

end CheckOptions

/-- The number that the program exits with, or the failure that gets out of it. -/
def Execution.status (execution : Execution) : Except Failure Nat :=
  execution.run.outcome.map ExitCode.number

namespace Program

theorem guarded_of_ok {run : Run ExitCode} (ended : run.outcome = .ok code) :
    guarded run = run := by
  rw [guarded, Run.attempt_bind, ended]
  exact Run.ext ended.symm (List.append_nil _)

theorem outcome_guarded_of_interrupt {run : Run ExitCode}
    (ended : run.outcome = .error (.fault .interrupt wording)) :
    (guarded run).outcome = .ok .generalError := by
  rw [guarded, Run.attempt_bind, ended]
  rfl

namespace RunsCheck
variable {surroundings : Surroundings} {given : List (Given CheckOption)} {options : CheckOptions}

/-- Unless a failure gets out of its run, the command is the run itself. -/
theorem run_of_ok (runs : RunsCheck surroundings arguments given options)
    (ended : (options.run surroundings.cluster).outcome = .ok code) :
    (Program.execute surroundings arguments).run = options.run surroundings.cluster := by
  rw [runs.execute]
  exact guarded_of_ok ended

theorem status_of_ok (runs : RunsCheck surroundings arguments given options)
    (ended : (options.run surroundings.cluster).outcome = .ok code) :
    (Program.execute surroundings arguments).status = .ok code.number := by
  rw [Execution.status, runs.run_of_ok ended, ended]
  rfl

/-- A check of a version that was retrieved ends with its code, and its report is the last it does. -/
theorem ran {info : ServerInfo} (runs : RunsCheck surroundings arguments given options)
    (retrieved : (surroundings.cluster.discover options.kubeconfig options.context).outcome =
      .ok info) (judged : CheckOptions.verdict (options.finding info) = .ok (code, error)) :
    (Program.execute surroundings arguments).status = .ok code.number ∧
    (Program.execute surroundings arguments).run.effects =
      options.beforeReport surroundings.cluster info ++ (Report.emit
        { current := info.gitVersion, minimum := options.config.minimum, error }
        options.format).effects := by
  have ran := CheckOptions.run_of_answered retrieved judged
  have ended : (options.run surroundings.cluster).outcome = .ok code := by rw [ran]
  exact ⟨runs.status_of_ok ended, congrArg Run.effects ((runs.run_of_ok ended).trans ran)⟩

end RunsCheck
end Program
end VersionGate.Cli
