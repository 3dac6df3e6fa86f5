import VersionGate.Proofs.Agreement

/-! What can be seen of a check: its status, and what stands on the two channels. Neither the format
nor the progress that is shown changes what a check finds, and each format gives all of it. -/
namespace VersionGate

namespace Cli
open Run (Only)

namespace CheckOptions
variable {options : CheckOptions} {cluster : Cluster}

/-- Where no version is known, there is no result to show. -/
theorem only_run_of_failed {failure : Failure}
    (failed : (cluster.discover options.kubeconfig options.context).outcome = .error failure) :
    (options.run cluster).Only Effect.NoResult := by
  have resolve := (Config.only_resolve options.config).mono fun _ => Effect.OfCheck.noResult
  have progress (message : String) : (options.progress message).Only Effect.NoResult :=
    options.only_progress (fun _ => nofun) message
  refine Only.bind resolve fun minimum => Only.bind (progress _) fun _ =>
    Only.bind_of_outcome (Only.attempt (cluster.only_discover _ _)) fun outcome ended => ?_
  obtain rfl : .error failure = outcome := failed.symm.trans (Except.ok.inj ended)
  dsimp only
  split
  · exact Only.fail _
  · exact Only.bind (Only.perform nofun) fun _ => Only.bind (Only.perform nofun) fun _ => Only.pure _

end CheckOptions

namespace Program
variable {surroundings : Surroundings} {given : List (Given CheckOption)} {options : CheckOptions}

theorem only_guarded {run : Run ExitCode} (only : run.Only Effect.NoResult) :
    (guarded run).Only Effect.NoResult := by
  refine Only.bind (Only.attempt only) fun outcome => ?_
  split
  · exact Only.pure _
  · split
    · exact Only.bind (Only.perform nofun) fun _ =>
        Only.bind (Only.perform nofun) fun _ => Only.pure _
    · exact Only.fail _

theorem RunsCheck.output_of_failed {failure : Failure}
    (runs : RunsCheck surroundings arguments given options)
    (failed : (surroundings.cluster.discover options.kubeconfig options.context).outcome =
      .error failure) : (Program.execute surroundings arguments).output = "" := by
  rw [runs.execute]
  exact Execution.output_of_noResult (only_guarded (CheckOptions.only_run_of_failed failed))

/-- The status and the document of a check are the same for every command line that asks for it,
whatever its format and whether it shows progress. The document is one JSON object, with the texts
as they were given. It says that the versions are compatible exactly if it has no error and the
status is zero, which is when text goes to the output channel; otherwise the same error is the last
line of the diagnostics. Without a version to check, nothing is on the output channel at all. -/
theorem channels_agree (surroundings : Surroundings) (options : CheckOptions) :
    (∀ info,
      (surroundings.cluster.discover options.kubeconfig options.context).outcome = .ok info →
      ∃ n document error, errorText (Comparison.compareVersions info.gitVersion
          options.config.minimum Config.variableName).outcome = .ok error ∧
        (n = 0 ↔ error = none) ∧
        Value.ofJson? document = some (.object [("compatible", .bool error.isNone),
          ("current_version", .text info.gitVersion),
          ("minimum_version", .text options.config.minimum), ("error", .ofText? error)]) ∧
        ∀ arguments given format verbose,
          RunsCheck surroundings arguments given { options with format, verbose } →
          (execute surroundings arguments).Shows format n document error) ∧
    ∀ failure,
      (surroundings.cluster.discover options.kubeconfig options.context).outcome = .error failure →
      ∀ arguments given format verbose,
        RunsCheck surroundings arguments given { options with format, verbose } →
        (execute surroundings arguments).output = "" := by
  constructor
  · intro info retrieved
    obtain ⟨code, error, told, judged, passes⟩ := options.verdict_of_finding info
    rw [← errorText_eq_none_iff, told, Except.ok.injEq] at passes
    refine ⟨code.number,
      Report.document { current := info.gitVersion, minimum := options.config.minimum, error },
      error, told, passes, Report.ofJson?_document _, ?_⟩
    intro arguments given format verbose runs
    exact runs.shows retrieved judged told
  · intro failure failed arguments given format verbose runs
    exact runs.output_of_failed failed

/-- A version that would colour the terminal and start a line of its own. The document gives it as
it is, the error shows it by its escapes. -/
theorem channels_agree_escapes :
    let version := "v1.17\x1b[0m\n"
    let words := "invalid current kubernetes version 'v1.17\\x1b[0m\\n': " ++
      "Invalid semantic version '1.17\\x1b[0m\\n'"
    let answering : Surroundings :=
      { cluster := { endpoint := .answers [("git_version", .text version)] } }
    let silent : Surroundings := { cluster := { endpoint := .fails (.fault .timeout .silent) } }
    (∃ n document, n ≠ 0 ∧
      Value.ofJson? document = some (.object [("compatible", .bool false),
        ("current_version", .text version), ("minimum_version", .text "v1.18.0"),
        ("error", .text words)]) ∧
      (execute answering ["check", "-o", "json"]).Shows .json n document (some words) ∧
      (execute answering ["check", "-o", "json", "-v"]).Shows .json n document (some words) ∧
      (execute answering ["check"]).Shows .text n document (some words)) ∧
    (execute silent ["check", "-o", "json", "-v"]).output = "" := by
  intro version words answering silent
  have retrieved : (answering.cluster.discover none none).outcome = .ok { gitVersion := version } :=
    rfl
  have malformed : Version.read version = .error (.malformed "1.17\x1b[0m\n") := by decide +kernel
  have told : errorText (Comparison.compareVersions version "v1.18.0"
      Config.variableName).outcome = .ok (some words) := by
    rw [(Comparison.Verdict.malformedCurrent malformed).outcome]
    exact congrArg (Except.ok ∘ some) (by decide +kernel)
  have bare : RunsCheck answering ["check"] [] {} := .intro rfl rfl List.not_mem_nil rfl
  obtain ⟨n, document, error, ended, status, decodes, seen⟩ :=
    (channels_agree answering {}).1 _ retrieved
  obtain rfl : some words = error := Except.ok.inj (told.symm.trans ended)
  refine ⟨⟨n, document, by simp [status], decodes, ?_, ?_, ?_⟩, ?_⟩
  · exact seen _ _ _ _ (runsCheck_format answering readFormat_json false)
  · exact seen _ _ _ _ (runsCheck_format answering readFormat_json true)
  · exact seen _ _ _ _ bare
  · exact (channels_agree silent {}).2 _ rfl _ _ _ _ (runsCheck_format silent readFormat_json true)

end Program

end Cli

end VersionGate
