import VersionGate.Proofs.Attributes
import VersionGate.Proofs.Disclosure

/-! What the errors of a comparison are when they are shown. No control is in the text of such an
error or of its cause, nor in the message that its span takes up from it. So what the check command
says in text form of a version that it does not admit is one line, whatever the cluster answered. -/
namespace VersionGate

/-- An attribute that was just set is there, also if another of its name or the first had to go. -/
theorem Span.get?_put {name : String} (named : name ≠ "") (attributes : Fields) (value : Value) :
    (put attributes (name, value)).get? name = some value := by
  have new := not_mem_names_others name attributes
  have kept : ∀ fields : Fields, fields.Sublist (others name attributes) →
      Fields.get? name (fields ++ [(name, value)]) = some value := by
    intro fields sublist
    have absent : fields.get? name = none :=
      Fields.get?_eq_none_iff.mpr fun known => new ((sublist.map Prod.fst).subset known)
    rw [Fields.get?_concat, absent, if_pos rfl, Option.none_or]
  rw [put, if_neg (by simpa using named)]
  dsimp only
  split
  · exact kept _ (List.Sublist.refl _)
  · exact kept _ (List.tail_sublist _)

namespace Run
variable {α : Type} {failure : Failure}

/-- A run that ends with a span, and the message in there. -/
def EndsInSpan (run : Run α) (message : String) : Prop :=
  ∃ inside span, run.effects = inside ++ [.span span] ∧
    span.attributes.get? "exception.message" = some (.text message)

theorem EndsInSpan.of_append {run : Run α} {last : Run β} (ends : last.EndsInSpan message)
    (effects : run.effects = before ++ last.effects) : run.EndsInSpan message := by
  obtain ⟨inside, span, lastEffects, told⟩ := ends
  refine ⟨before ++ inside, span, ?_, told⟩
  rw [effects, lastEffects, List.append_assoc]

theorem endsInSpan_withinSpan {body : Run α} (failed : body.outcome = .error failure)
    (goesOn : failure.isInterrupt = false) (told : failure.print = .ok text) (override : Bool)
    (extra : Fields) : (withinSpan override extra body).EndsInSpan text := by
  refine ⟨_, _, rfl, ?_⟩
  simp only [failed, failureMarks_of_text goesOn told, List.foldl_append, List.foldl_cons,
    List.foldl_nil]
  exact Span.get?_put (by decide) _ _

end Run

namespace Comparison
open Text
variable {failure : Failure}

theorem controlFree_of_error (key : ControlFree overrideKey.toList)
    (failed : (compareVersions current minimum overrideKey).outcome = .error failure)
    (told : failure.print = .ok text) : ControlFree text.toList :=
  (verdict_of_outcome failed).controlFree key told

/-- The error of a comparison is no interrupt, so the span around it takes up its message, whatever
else is done within and whatever attributes it was given. -/
theorem endsInSpan_of_error {body : Run Unit}
    (failed : (compareVersions current minimum overrideKey).outcome = .error failure)
    (told : failure.print = .ok text) (ends : body.outcome = .error failure) (override : Bool)
    (extra : Fields) : (Run.withinSpan override extra body).EndsInSpan text := by
  have goesOn := (verdict_of_outcome failed).isInterrupt_eq_false
  exact Run.endsInSpan_withinSpan ends goesOn told override extra

end Comparison

theorem endsInSpan_checkMinimumVersion {versioner : Versioner} {info : ServerInfo}
    {failure : Failure} (answers : versioner.ask.outcome = .ok info) (config : Option Config)
    (variableValue : Option String)
    (failed : (checkMinimumVersion versioner config variableValue).outcome = .error failure)
    (told : failure.print = .ok text) :
    (checkMinimumVersion versioner config variableValue).EndsInSpan text := by
  have traced (override : Bool) : (Comparison.traced override info.gitVersion
      (Config.effective config variableValue).minimum).EndsInSpan text := by
    rw [outcome_checkMinimumVersion answers] at failed
    rw [Comparison.traced]
    refine Comparison.endsInSpan_of_error failed told ?_ override []
    exact failed
  exact (traced _).of_append (effects_checkMinimumVersion answers config variableValue)

namespace Cli
open Run (Only)
open Text (ControlFree)

/-- An execution that ends with a line on the diagnostics channel. The line holds no control, and
without progress it is all that is shown, beside what is logged. -/
structure Execution.EndsInLine (execution : Execution) (verbose : Bool) (line : String) : Prop where
  last : ∃ before, execution.run.effects = before ++ [.print .diagnostics (line ++ "\n")] ∧
    (verbose = false → ∀ effect ∈ before, effect.NoPrint)
  free : ControlFree line.toList

namespace CheckOptions
variable {options : CheckOptions} {cluster : Cluster} {info : ServerInfo}

theorem noPrint_progress (quiet : options.verbose = false) (message : String) :
    (options.progress message).Only Effect.NoPrint := by
  rw [progress, quiet]
  exact Only.pure ()

theorem noPrint_beforeFailure (quiet : options.verbose = false) (cluster : Cluster) :
    ∀ effect ∈ options.beforeFailure cluster, effect.NoPrint := by
  have resolve := (Config.only_resolve options.config).mono fun _ => Effect.OfCheck.noPrint
  have discover := cluster.noPrint_discover options.kubeconfig options.context
  exact List.forall_mem_append.mpr
    ⟨resolve, List.forall_mem_append.mpr ⟨noPrint_progress quiet _, discover⟩⟩

theorem beforeReport_eq (options : CheckOptions) (cluster : Cluster) (info : ServerInfo) :
    options.beforeReport cluster info = options.beforeFailure cluster ++
      ((options.progress ("Server version: " ++ info.gitVersion)).effects ++
        (checkMinimumVersion (Versioner.resolved info) (some options.config) none).effects) := by
  simp only [beforeReport, beforeFailure, List.append_assoc]

theorem noPrint_beforeReport (quiet : options.verbose = false) (cluster : Cluster)
    (info : ServerInfo) : ∀ effect ∈ options.beforeReport cluster info, effect.NoPrint := by
  have check := (options.only_check info).mono fun _ => Effect.OfCheck.noPrint
  rw [beforeReport_eq]
  exact List.forall_mem_append.mpr ⟨noPrint_beforeFailure quiet cluster,
    List.forall_mem_append.mpr ⟨noPrint_progress quiet _, check⟩⟩

end CheckOptions

namespace Program
variable {surroundings : Surroundings} {given : List (Given CheckOption)} {options : CheckOptions}
variable {info : ServerInfo}

theorem RunsCheck.endsInLine_of_refused {failure : Failure}
    (runs : RunsCheck surroundings arguments given options) (textForm : options.format = .text)
    (retrieved : (surroundings.cluster.discover options.kubeconfig options.context).outcome =
      .ok info) (refused : options.finding info = .error failure)
    (told : failure.print = .ok text) :
    (Program.execute surroundings arguments).EndsInLine options.verbose ("Error: ✗ " ++ text) := by
  obtain ⟨code, error, errorTold, judged, _⟩ := options.verdict_of_finding info
  obtain ⟨_, effects⟩ := runs.ran retrieved judged
  rw [refused, errorText, told] at errorTold
  obtain rfl : some text = error := Except.ok.inj errorTold
  have free := Comparison.controlFree_of_error (by decide) refused told
  rw [textForm] at effects
  refine ⟨⟨_, effects.trans ?_, fun quiet =>
    CheckOptions.noPrint_beforeReport quiet surroundings.cluster info⟩, .append (by decide) free⟩
  exact congrArg (_ ++ ·) (Report.effects_emit_text_of_some rfl free)

theorem RunsCheck.endsInLine_of_failed {failure : Failure}
    (runs : RunsCheck surroundings arguments given options)
    (failed : (surroundings.cluster.discover options.kubeconfig options.context).outcome =
      .error failure) (goesOn : failure.isInterrupt = false)
    (nameFree : ControlFree failure.name.toList) :
    (Program.execute surroundings arguments).EndsInLine options.verbose
      ("Error: Failed to retrieve Kubernetes version: " ++ failure.name) := by
  have free : ControlFree ("Error: Failed to retrieve Kubernetes version: " ++
    failure.name).toList := .append (by decide +kernel) nameFree
  have effects := congrArg Run.effects (runs.run_of_failed failed goesOn)
  rw [CheckOptions.failureReport, Text.plain_eq_self free.escape_not_mem] at effects
  refine ⟨⟨_, effects.trans (List.append_cons _ _ _), fun quiet => ?_⟩, free⟩
  refine List.forall_mem_append.mpr ⟨CheckOptions.noPrint_beforeFailure quiet _, ?_⟩
  exact List.forall_mem_singleton.mpr nofun

/-- An answer is refused for its fields, or else the version in it is compared. -/
theorem exists_line_of_answers (runs : RunsCheck surroundings arguments given options)
    (textForm : options.format = .text) (answers : surroundings.cluster.endpoint = .answers fields)
    (loading : surroundings.cluster.Loading options.context options.kubeconfig loads (.ok ()))
    (notPassed : (execute surroundings arguments).status ≠ .ok 0) :
    ∃ line, (execute surroundings arguments).EndsInLine options.verbose line ∧
      ∀ info failure,
        (surroundings.cluster.discover options.kubeconfig options.context).outcome = .ok info →
        options.finding info = .error failure →
        ∃ text, failure.print = .ok text ∧ line = "Error: ✗ " ++ text := by
  cases fieldsRead : ServerInfo.ofFields (Endpoint.known fields) with
  | error e =>
    have failed := (Cluster.Retrieval.refused loading answers fieldsRead).eq.2
    have nameFree : ControlFree (Failure.invalid e).name.toList :=
      show ControlFree "ValidationError".toList by decide
    refine ⟨_, runs.endsInLine_of_failed failed rfl nameFree, ?_⟩
    intro info failure retrieved
    rw [failed] at retrieved
    contradiction
  | ok info =>
    have retrieved := (Cluster.Retrieval.answered loading answers fieldsRead).eq.2
    cases found : options.finding info with
    | error failure =>
      obtain ⟨text, told⟩ := Comparison.exists_text_of_error found
      refine ⟨_, runs.endsInLine_of_refused textForm retrieved found told, ?_⟩
      intro otherInfo other retrievedOther foundOther
      obtain rfl := Except.ok.inj (retrieved.symm.trans retrievedOther)
      obtain rfl := Except.error.inj (found.symm.trans foundOther)
      exact ⟨text, told, rfl⟩
    | ok _ =>
      obtain ⟨code, _, _, judged, passes⟩ := options.verdict_of_finding info
      have status := (runs.ran retrieved judged).1
      exact absurd (status.trans (congrArg _ (passes.mpr found))) notPassed

/-- No error of a comparison lets a control through. Whatever the two texts are, the error and its
cause hold none if the name of the override holds none, and the message of any span around the
comparison is that of the error; so it is for a check, whose override is the variable. What the
command says in text form of an answer that it does not admit is one line at the end, on the channel
for diagnostics: the error that the comparison ended with, or else that the answer was refused. -/
theorem errors_hold_no_control :
    (∀ current minimum overrideKey failure, ControlFree overrideKey.toList →
      (Comparison.compareVersions current minimum overrideKey).outcome = .error failure →
      ∃ text, failure.print = .ok text ∧ ControlFree text.toList ∧
      (∀ e cause, failure = .check e (some cause) → ControlFree cause.message.toList) ∧
      ∀ override extra, ∀ body : Run Unit, body.outcome = .error failure →
        (Run.withinSpan override extra body).EndsInSpan text) ∧
    (∀ versioner info config variableValue failure, versioner.ask.outcome = .ok info →
      (checkMinimumVersion versioner config variableValue).outcome = .error failure →
      ∃ text, failure.print = .ok text ∧ ControlFree text.toList ∧
      (checkMinimumVersion versioner config variableValue).EndsInSpan text) ∧
    ∀ surroundings arguments given options fields loads,
      RunsCheck surroundings arguments given options → options.format = .text →
      surroundings.cluster.endpoint = .answers fields →
      surroundings.cluster.Loading options.context options.kubeconfig loads (.ok ()) →
      (execute surroundings arguments).status ≠ .ok 0 →
      ∃ line, (execute surroundings arguments).EndsInLine options.verbose line ∧
        ∀ info failure,
          (surroundings.cluster.discover options.kubeconfig options.context).outcome = .ok info →
          (Comparison.compareVersions info.gitVersion options.config.minimum
            Config.variableName).outcome = .error failure →
          ∃ text, failure.print = .ok text ∧ line = "Error: ✗ " ++ text := by
  refine ⟨?_, ?_, ?_⟩
  · intro current minimum overrideKey failure key failed
    obtain ⟨text, told⟩ := Comparison.exists_text_of_error failed
    refine ⟨text, told, Comparison.controlFree_of_error key failed told, ?_, ?_⟩
    · intro e cause _
      exact cause.controlFree_message
    · intro override extra body ends
      exact Comparison.endsInSpan_of_error failed told ends override extra
  · intro versioner info config variableValue failure answers failed
    have compared := failed
    rw [outcome_checkMinimumVersion answers] at compared
    obtain ⟨text, told⟩ := Comparison.exists_text_of_error compared
    refine ⟨text, told, Comparison.controlFree_of_error (by decide) compared told, ?_⟩
    exact endsInSpan_checkMinimumVersion answers config variableValue failed told
  · intro surroundings arguments given options fields loads runs textForm answers loading
    exact exists_line_of_answers runs textForm answers loading

/-- A version that would colour the terminal and start a line of its own. -/
theorem errors_hold_no_control_escapes :
    let version := "v1.17\x1b[0m\n"
    let cause : Version.Error := .malformed "1.17\x1b[0m\n"
    let e : CheckError := .malformed version "current" cause.message
    let failure : Failure := .check e (some cause)
    let cluster : Cluster := { endpoint := .answers [("git_version", .text version)] }
    let versioner := Versioner.ofEndpoint cluster.endpoint
    (Comparison.compareVersions version "v1.18.0" "MINIMUM").outcome = .error failure ∧
    failure.print = .ok e.message ∧ ControlFree e.message.toList ∧
    ControlFree cause.message.toList ∧
    (Run.withinSpan true [("\n", .text "\n")]
      (Comparison.compareVersions version "v1.18.0" "MINIMUM")).EndsInSpan e.message ∧
    (checkMinimumVersion versioner none none).EndsInSpan e.message ∧
    RunsCheck { cluster } ["check"] [] {} ∧
    (execute { cluster } ["check"]).EndsInLine false ("Error: ✗ " ++ e.message) := by
  intro version cause e failure cluster versioner
  have told : failure.print = .ok e.message := Failure.print_malformed _ _ _ _
  have versionRead : Version.read version = .error cause := by decide +kernel
  have failed (overrideKey : String) :
      (Comparison.compareVersions version "v1.18.0" overrideKey).outcome = .error failure :=
    (Comparison.Verdict.malformedCurrent versionRead).outcome
  have answers : versioner.ask.outcome = .ok { gitVersion := version } := rfl
  have retrieval : cluster.Retrieval none none _ (.ok { gitVersion := version }) :=
    .answered (.inside rfl) rfl rfl
  have runs : RunsCheck { cluster } ["check"] [] {} := .intro rfl rfl List.not_mem_nil rfl
  have exits : (execute { cluster } ["check"]).status = .ok 5 :=
    status_of_exitStatus runs (.malformedVersion retrieval versionRead)
  obtain ⟨compared, checked, shown⟩ := errors_hold_no_control
  obtain ⟨text, own, free, causes, within⟩ := compared _ _ "MINIMUM" _ (by decide) (failed _)
  obtain rfl : e.message = text := Except.ok.inj (told.symm.trans own)
  have checkFailed : (checkMinimumVersion versioner none none).outcome = .error failure :=
    (outcome_checkMinimumVersion answers none none).trans (failed _)
  obtain ⟨text, own, _, traced⟩ := checked _ _ _ _ _ answers checkFailed
  obtain rfl : e.message = text := Except.ok.inj (told.symm.trans own)
  obtain ⟨line, ends, names⟩ := shown _ _ _ _ _ _ runs rfl rfl (.inside rfl) (by simp [exits])
  obtain ⟨text, own, lineEq⟩ := names _ _ retrieval.eq.2 (failed _)
  obtain rfl : e.message = text := Except.ok.inj (told.symm.trans own)
  refine ⟨failed _, told, free, causes _ _ rfl, within _ _ _ (failed _), traced, runs, ?_⟩
  exact lineEq ▸ ends

end Program

end Cli

end VersionGate
