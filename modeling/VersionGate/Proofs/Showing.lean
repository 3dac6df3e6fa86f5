import VersionGate.Proofs.CheckCommand
import VersionGate.Proofs.Document

/-! What an execution shows: the output channel holds its results, and the diagnostics channel ends
with its last line there. A report that comes last is seen in full on the two, in the format that was
asked for. -/
namespace VersionGate

def Effect.result? : Effect → Option String
  | .print .output text => some text
  | _ => none

theorem Effect.NoResult.result? {effect : Effect} (noResult : effect.NoResult) :
    effect.result? = none := by
  unfold Effect.result?
  split
  · exact absurd rfl (noResult _)
  · rfl

namespace Cli
namespace Execution
variable {execution : Execution}

theorem output_eq (execution : Execution) :
    execution.output = String.join (execution.run.effects.filterMap Effect.result?) := rfl

/-- What shows no result leaves nothing on the output channel. -/
theorem output_of_append (effects : execution.run.effects = before ++ after)
    (noResult : ∀ effect ∈ before, effect.NoResult) :
    execution.output = String.join (after.filterMap Effect.result?) := by
  have nothing : before.filterMap Effect.result? = [] :=
    List.filterMap_eq_nil_iff.mpr fun effect member => (noResult effect member).result?
  rw [output_eq, effects, List.filterMap_append, nothing, List.nil_append]

theorem output_of_noResult (only : execution.run.Only Effect.NoResult) : execution.output = "" :=
  output_of_append (List.append_nil _).symm only

theorem diagnostics_of_last (effects : execution.run.effects = before ++ [.print .diagnostics text])
    (stamp : Log.Stamp) : ∃ earlier, execution.diagnostics stamp = earlier ++ text := by
  refine ⟨{ execution with run := { execution.run with effects := before } }.diagnostics stamp, ?_⟩
  rw [diagnostics, diagnostics, effects, List.filterMap_append, String.join_append]
  simp

/-- What is seen of a check that ended with the given error, in a format. The document is that of
the check; text shows a result or else the error, on the channel for it. -/
structure Shows (execution : Execution) (format : Format) (n : Nat) (document : String)
    (error : Option String) : Prop where
  exits : execution.status = .ok n
  json : format = .json → execution.output = document
  passes : format = .text → (execution.output ≠ "" ↔ error = none)
  tells : format = .text → ∀ text, error = some text → ∀ stamp, ∃ earlier,
    execution.diagnostics stamp = earlier ++ ("Error: ✗ " ++ text ++ "\n")

end Execution

namespace Report

def document (report : Report) : String := Value.jsonLines report.toFields ++ "\n"

theorem isFlat_toFields (report : Report) : ∀ entry ∈ report.toFields, entry.2.IsFlat := by
  simp only [toFields, List.forall_mem_cons]
  exact ⟨.bool, .text, .text, Value.isFlat_ofText? _, List.forall_mem_nil _⟩

theorem ofJson?_document (report : Report) :
    Value.ofJson? report.document = some (.object report.toFields) :=
  Value.ofJson?_jsonLines report.isFlat_toFields

theorem effects_emit_json (report : Report) :
    (report.emit .json).effects = [.print .output report.document] := by
  have written := Value.plain_jsonLines report.isFlat_toFields
  rw [document, ← written]
  rfl

/-- The line that a report shows as its result, before control sequences are taken out of it. -/
def passLine (report : Report) : String :=
  "✓ Kubernetes version " ++ report.current ++ " meets minimum " ++ report.minimum

theorem effects_emit_text_of_none {report : Report} (passed : report.error = none) :
    (report.emit .text).effects = [.print .output (Text.plain report.passLine ++ "\n")] := by
  simp only [emit, passed]
  rfl

theorem effects_emit_text_of_some {report : Report} (refused : report.error = some text)
    (free : Text.ControlFree text.toList) :
    (report.emit .text).effects = [.print .diagnostics ("Error: ✗ " ++ text ++ "\n")] := by
  have line : Notice.errorText ("✗ " ++ text) [] = "Error: ✗ " ++ text := by
    have opening : "Error: ✗ " = "Error: " ++ "✗ " := rfl
    rw [opening, String.append_assoc]
    rfl
  have written : Text.plain ("Error: ✗ " ++ text) = "Error: ✗ " ++ text :=
    Text.plain_eq_self (Text.ControlFree.append (by decide) free).escape_not_mem
  have printed : (Run.print .diagnostics ("Error: ✗ " ++ text)).effects =
      [.print .diagnostics (Text.plain ("Error: ✗ " ++ text) ++ "\n")] := rfl
  have writable : Notice.isWritable [] = true := rfl
  simp only [emit, refused, Notice.error_eq_print writable, line, printed, written]

end Report

/-- A report that is all the result of an execution is seen in full, whatever was done before it. -/
theorem Execution.shows_of_effects {execution : Execution} {report : Report}
    (status : execution.status = .ok n)
    (effects : execution.run.effects = before ++ (report.emit format).effects)
    (noResult : ∀ effect ∈ before, effect.NoResult)
    (free : ∀ text, report.error = some text → Text.ControlFree text.toList) :
    execution.Shows format n report.document report.error := by
  cases format with
  | json =>
    rw [Report.effects_emit_json] at effects
    have output : execution.output = report.document := output_of_append effects noResult
    exact ⟨status, fun _ => output, nofun, nofun⟩
  | text =>
    cases error : report.error with
    | none =>
      rw [Report.effects_emit_text_of_none error] at effects
      have output : execution.output = Text.plain report.passLine ++ "\n" :=
        output_of_append effects noResult
      exact ⟨status, nofun, fun _ => iff_of_true (by simp [output]) rfl, nofun⟩
    | some words =>
      rw [Report.effects_emit_text_of_some error (free words error)] at effects
      have output : execution.output = "" := output_of_append effects noResult
      refine ⟨status, nofun, fun _ => iff_of_false (by simp [output]) nofun, ?_⟩
      intro _ text told stamp
      obtain rfl := Option.some.inj told
      exact diagnostics_of_last effects stamp

namespace CheckOptions
variable {options : CheckOptions} {cluster : Cluster} {info : ServerInfo}

/-- The error of a check holds no control, since the name of the variable holds none. -/
theorem controlFree_of_finding (refused : errorText (options.finding info) = .ok (some text)) :
    Text.ControlFree text.toList := by
  cases ended : options.finding info with
  | ok _ =>
    rw [ended] at refused
    cases refused
  | error failure =>
    obtain ⟨words, told⟩ := Comparison.exists_text_of_error ended
    rw [ended, errorText, told] at refused
    obtain rfl := Option.some.inj (Except.ok.inj refused)
    exact (Comparison.verdict_of_outcome ended).controlFree (by decide) told

/-- Versions that passed are accepted texts, so a line of them is shown as it is. -/
theorem plain_passLine_of_finding (passed : options.finding info = .ok ()) :
    Text.plain (Report.passLine { current := info.gitVersion, minimum := options.config.minimum }) =
      Report.passLine { current := info.gitVersion, minimum := options.config.minimum } := by
  cases Comparison.verdict_of_outcome passed with
  | admitted currentRead minimumRead _ =>
    refine Text.plain_eq_self (Text.ControlFree.escape_not_mem ?_)
    exact .append (.append (.append (by decide) (Version.controlFree_of_read currentRead))
      (by decide)) (Version.controlFree_of_read minimumRead)

end CheckOptions

namespace Program
variable {surroundings : Surroundings} {given : List (Given CheckOption)} {options : CheckOptions}
variable {info : ServerInfo}

/-- What a command line shows of a check, in the format that it asks for. -/
theorem RunsCheck.shows (runs : RunsCheck surroundings arguments given options)
    (retrieved : (surroundings.cluster.discover options.kubeconfig options.context).outcome =
      .ok info)
    (judged : CheckOptions.verdict (options.finding info) = .ok (code, error))
    (told : errorText (options.finding info) = .ok error) :
    (Program.execute surroundings arguments).Shows options.format code.number
      (Report.document { current := info.gitVersion, minimum := options.config.minimum, error })
      error := by
  obtain ⟨status, effects⟩ := runs.ran retrieved judged
  refine Execution.shows_of_effects status effects ?_ ?_
  · intro effect member
    exact CheckOptions.not_result_of_beforeReport member
  · intro text refused
    exact CheckOptions.controlFree_of_finding (told.trans (congrArg Except.ok refused))

/-- A check that passes shows its one line as the whole of the output. -/
theorem RunsCheck.output_of_passed (runs : RunsCheck surroundings arguments given options)
    (retrieved : (surroundings.cluster.discover options.kubeconfig options.context).outcome =
      .ok info)
    (passed : options.finding info = .ok ()) (text : options.format = .text) :
    (Program.execute surroundings arguments).output = "✓ Kubernetes version " ++ info.gitVersion ++
      " meets minimum " ++ options.config.minimum ++ "\n" := by
  have judged : CheckOptions.verdict (options.finding info) = .ok (.success, none) := by
    rw [passed, CheckOptions.verdict]
  obtain ⟨_, effects⟩ := runs.ran retrieved judged
  rw [text, Report.effects_emit_text_of_none rfl,
    CheckOptions.plain_passLine_of_finding passed] at effects
  exact Execution.output_of_append effects fun effect => CheckOptions.not_result_of_beforeReport

end Program

end Cli

end VersionGate
