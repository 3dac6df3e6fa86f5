import VersionGate.Proofs.Showing

/-! The check command beside a check by the library. Each settles on its own where the minimum comes
from, and the command checks an answer that it got before, but both judge the same two texts and so
end alike. The command asks the cluster once: what it shows is the answer that was judged. -/
namespace VersionGate.Cli
namespace CheckOptions

/-- Whatever a comparison ends with has a code, and the text that is reported with it. -/
theorem verdict_of_comparison
    (verdict : Comparison.Verdict current minimum Config.variableName result) :
    ∃ code error, errorText result = .ok error ∧ CheckOptions.verdict result = .ok (code, error) ∧
      (code.number = 0 ↔ result = .ok ()) := by
  cases verdict with
  | malformedCurrent _ => exact ⟨.validationError, _, rfl, rfl, by simp [ExitCode.number]⟩
  | malformedMinimum _ _ => exact ⟨.usageError, _, rfl, rfl, by simp [ExitCode.number]⟩
  | tooLow _ _ _ => exact ⟨.validationError, _, rfl, rfl, by simp [ExitCode.number]⟩
  | admitted _ _ _ => exact ⟨.success, none, rfl, rfl, by simp [ExitCode.number]⟩

theorem verdict_of_finding (options : CheckOptions) (info : ServerInfo) :
    ∃ code error, errorText (options.finding info) = .ok error ∧
      CheckOptions.verdict (options.finding info) = .ok (code, error) ∧
      (code.number = 0 ↔ options.finding info = .ok ()) :=
  verdict_of_comparison (Comparison.verdict_of_outcome rfl)

end CheckOptions

/-- An execution that tells what a check ended with. It exits with zero exactly if the check passed.
The document, which is the whole output in its format, decodes to the two versions and the text of
the error; in text, a version that passed is named with its minimum, and otherwise the text of the
error is the last line of the diagnostics. -/
structure Execution.Tells (execution : Execution) (format : Format) (current minimum : String)
    (result : Except Failure Unit) : Prop where
  shows : ∃ n document error, errorText result = .ok error ∧ (n = 0 ↔ result = .ok ()) ∧
    Value.ofJson? document = some (.object [("compatible", .bool error.isNone),
      ("current_version", .text current), ("minimum_version", .text minimum),
      ("error", .ofText? error)]) ∧
    execution.Shows format n document error
  passes : format = .text → result = .ok () →
    execution.output = "✓ Kubernetes version " ++ current ++ " meets minimum " ++ minimum ++ "\n"

namespace Program
open Arguments (last?)
variable {surroundings : Surroundings} {given : List (Given CheckOption)} {options : CheckOptions}
variable {info answer : ServerInfo} {versioner : Versioner}

theorem RunsCheck.tells (runs : RunsCheck surroundings arguments given options)
    (retrieved : (surroundings.cluster.discover options.kubeconfig options.context).outcome =
      .ok info) :
    (Program.execute surroundings arguments).Tells options.format info.gitVersion
      options.config.minimum (options.finding info) := by
  obtain ⟨code, error, told, judged, passes⟩ := options.verdict_of_finding info
  let report : Report := { current := info.gitVersion, minimum := options.config.minimum, error }
  refine ⟨⟨code.number, report.document, error, told, passes, report.ofJson?_document, ?_⟩, ?_⟩
  · exact runs.shows retrieved judged told
  · intro text passed
    exact runs.output_of_passed retrieved passed text

theorem RunsCheck.loads (runs : RunsCheck surroundings arguments given options)
    (retrieved : (surroundings.cluster.discover options.kubeconfig options.context).outcome =
      .ok info) :
    (Program.execute surroundings arguments).run.loads =
      (surroundings.cluster.discover options.kubeconfig options.context).loads := by
  obtain ⟨code, _, _, judged, _⟩ := options.verdict_of_finding info
  have ended : (options.run surroundings.cluster).outcome = .ok code := by
    rw [CheckOptions.run_of_answered retrieved judged]
  rw [runs.run_of_ok ended]
  exact CheckOptions.loads_run_of_answered retrieved

/-- The command tells what the library's check of the same answer ends with, led by the variable
where no minimum is given on the command line and by the one given last otherwise. Its loads are
those of one retrieval, with one query of the version: no second answer can be judged or shown. -/
theorem command_tells_check (runs : RunsCheck surroundings arguments given options)
    (retrieved : (surroundings.cluster.discover options.kubeconfig options.context).outcome =
      .ok info)
    (answers : versioner.ask.outcome = .ok answer) (same : answer.gitVersion = info.gitVersion) :
    (.minVersion ∉ given.map Given.option →
      (execute surroundings arguments).Tells options.format info.gitVersion
        (Config.ofVariable surroundings.variableValue).minimum
        (checkMinimumVersion versioner none surroundings.variableValue).outcome) ∧
    (.minVersion ∈ given.map Given.option → ∃ text, last? given .minVersion = some text ∧
      ∀ variableValue, (execute surroundings arguments).Tells options.format info.gitVersion
        (Config.minimum { minVersion := some text })
        (checkMinimumVersion versioner (some { minVersion := some text }) variableValue).outcome) ∧
    (execute surroundings arguments).run.loads =
      (surroundings.cluster.discover options.kubeconfig options.context).loads ∧
    (execute surroundings arguments).run.loads.count .versionQuery = 1 := by
  have hasValue := Arguments.last?_isSome_iff runs.fit takesValue_of_minVersion
  -- Only the minimum differs between the two ways to call the library.
  have tells (config : Option Config) (variableValue : Option String)
      (minimum : options.config.minimum = (Config.effective config variableValue).minimum) :
      (execute surroundings arguments).Tells options.format info.gitVersion
        (Config.effective config variableValue).minimum
        (checkMinimumVersion versioner config variableValue).outcome := by
    rw [outcome_checkMinimumVersion answers, same, ← minimum]
    exact runs.tells retrieved
  have loads := runs.loads retrieved
  have retrieval := Cluster.retrieval_iff.mpr ⟨rfl, retrieved⟩
  refine ⟨fun absent => ?_, fun present => ?_, loads, ?_⟩
  · have noText : last? given .minVersion = none := by
      simpa using mt hasValue.mp absent
    refine tells none surroundings.variableValue ?_
    rw [runs.minimum, noText, Option.none_or]
    exact (Config.minimum_ofVariable _).symm
  · obtain ⟨text, last⟩ := Option.isSome_iff_exists.mp (hasValue.mpr present)
    refine ⟨text, last, fun variableValue => tells (some _) variableValue ?_⟩
    rw [runs.minimum, last, Option.some_or]
    exact (Config.minimum_eq_inForce _).symm
  · rw [loads]
    exact retrieval.count_versionQuery

/-- The variable asks for more than the cluster has. It counts on a bare command line, and an empty
text in its place hides it. -/
theorem command_tells_check_hidden :
    let cluster : Cluster := { endpoint := .answers [("git_version", .text "v1.29.2")] }
    let surroundings : Surroundings := { variableValue := some "v1.30.0", cluster }
    let versioner := Versioner.ofEndpoint cluster.endpoint
    (cluster.discover none none).outcome = .ok { gitVersion := "v1.29.2" } ∧
    versioner.ask.outcome = .ok { gitVersion := "v1.29.2" } ∧
    (RunsCheck surroundings ["check"] [] { minVersion := some "v1.30.0" } ∧
      (execute surroundings ["check"]).Tells .text "v1.29.2" "v1.30.0"
        (checkMinimumVersion versioner none (some "v1.30.0")).outcome) ∧
    (RunsCheck surroundings ["check", "--min-version", ""] [⟨.minVersion, some ""⟩]
        { minVersion := some "" } ∧
      (execute surroundings ["check", "--min-version", ""]).Tells .text "v1.29.2" "v1.18.0"
        (checkMinimumVersion versioner (some { minVersion := some "" })
          (some "v1.30.0")).outcome) ∧
    (execute surroundings ["check", "--min-version", ""]).output =
      "✓ Kubernetes version v1.29.2 meets minimum v1.18.0\n" := by
  intro cluster surroundings versioner
  have retrieved : (cluster.discover none none).outcome = .ok { gitVersion := "v1.29.2" } := rfl
  have answers : versioner.ask.outcome = .ok { gitVersion := "v1.29.2" } := rfl
  have bare : RunsCheck surroundings ["check"] [] { minVersion := some "v1.30.0" } :=
    .intro rfl rfl List.not_mem_nil rfl
  have empty := runsCheck_minVersion surroundings ""
  obtain ⟨text, last, tells⟩ :=
    (command_tells_check empty retrieved answers rfl).2.1 (List.mem_singleton_self _)
  obtain rfl : "" = text := Option.some.inj last
  refine ⟨retrieved, answers, ⟨bare, ?_⟩, ⟨empty, tells _⟩, (tells (some "v1.30.0")).passes rfl ?_⟩
  · exact (command_tells_check bare retrieved answers rfl).1 List.not_mem_nil
  · have version : Version.read "v1.29.2" = .ok ⟨1, 29, 2, [], []⟩ := by decide +kernel
    have minimum : Version.read "v1.18.0" = .ok ⟨1, 18, 0, [], []⟩ := by decide +kernel
    have enough : ¬ Version.Below ⟨1, 29, 2, [], []⟩ (Version.lowest ⟨1, 18, 0, [], []⟩) :=
      mt Version.precedes_iff_below.mpr (by decide)
    rw [outcome_checkMinimumVersion answers]
    exact (Comparison.Verdict.admitted version minimum enough).outcome

end Program
end VersionGate.Cli
