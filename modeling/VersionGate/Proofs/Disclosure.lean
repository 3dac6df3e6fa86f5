import VersionGate.Proofs.Channels
import VersionGate.Proofs.ExitStatus

/-! What a failed retrieval lets out: the name of its failure. Two clusters whose parts fail with
the same classes of failure, whatever these say, make the program do the same. This is shown for two
runs side by side, step by step: what they do agrees, and so does how they end, up to the words of a
failure. The same steps carry runs that differ in what they load. So a failure that another
configuration made up for is seen in nothing that comes after it. -/
namespace VersionGate

namespace Failure

/-- Failures of one class. What they say may differ, and so may the reasons that they give. -/
inductive SameClass : Failure → Failure → Prop where
  | fault {wording other : Wording} : SameClass (.fault kind wording) (.fault kind other)
  | refusal : SameClass (.refusal status reason) (.refusal status' reason')
  | invalid : SameClass (.invalid e) (.invalid e')
  | missing : SameClass (.missing m) (.missing m')
  | check : e.name = e'.name → SameClass (.check e cause) (.check e' cause')

namespace SameClass
variable {failure other : Failure}

theorem refl (failure : Failure) : SameClass failure failure := by
  cases failure with
  | check => exact .check rfl
  | _ => constructor

theorem name_eq (same : SameClass failure other) : failure.name = other.name := by
  cases same with
  | check sameName => exact sameName
  | _ => rfl

theorem isInterrupt_eq (same : SameClass failure other) :
    failure.isInterrupt = other.isInterrupt := by
  cases same with
  | @fault kind => cases kind <;> rfl
  | _ => rfl

theorem isConfiguration_eq (same : SameClass failure other) :
    failure.isConfiguration = other.isConfiguration := by
  cases same with
  | @fault kind => cases kind <;> rfl
  | _ => rfl

end SameClass

end Failure

open Failure (SameClass isInterrupt_eq_false)

def Effect.isLoad : Effect → Bool
  | .load _ => true
  | _ => false

namespace Run
variable {α β : Type} {shown : Effect → Bool}

/-- Outcomes that differ at most in what a failure says. -/
inductive EndsAlike : Except Failure α → Except Failure α → Prop where
  | ok : EndsAlike (.ok a) (.ok a)
  | error {failure other : Failure} : SameClass failure other →
      EndsAlike (.error failure) (.error other)

theorem EndsAlike.refl (outcome : Except Failure α) : EndsAlike outcome outcome := by
  cases outcome with
  | ok a => exact .ok
  | error failure => exact .error (.refl failure)

theorem EndsAlike.eq_of_ok {outcome other : Except Failure α} (alike : EndsAlike outcome other)
    (ended : outcome = .ok a) : outcome = other := by
  cases alike with
  | ok => rfl
  | error _ => contradiction

/-- Runs that end alike and do the same as far as it is shown. -/
structure Alike (shown : Effect → Bool) (first second : Run α) : Prop where
  outcome : EndsAlike first.outcome second.outcome
  effects : first.effects.filter shown = second.effects.filter shown

namespace Alike

theorem refl (run : Run α) : Alike shown run run := ⟨.refl _, rfl⟩

theorem fail {failure other : Failure} (same : SameClass failure other) :
    Alike shown (Run.fail failure : Run α) (Run.fail other) := ⟨.error same, rfl⟩

theorem bind {first second : Run α} {next next' : α → Run β} (alike : Alike shown first second)
    (rest : ∀ a, Alike shown (next a) (next' a)) :
    Alike shown (first >>= next) (second >>= next') := by
  obtain ⟨outcome, effects⟩ := first
  obtain ⟨outcome', effects'⟩ := second
  obtain ⟨ends, same⟩ := alike
  cases ends with
  | @ok a =>
    rw [bind_of_ok rfl, bind_of_ok rfl]
    refine ⟨(rest a).outcome, ?_⟩
    rw [List.filter_append, List.filter_append, (rest a).effects]
    exact congrArg (· ++ _) same
  | error classEq =>
    rw [bind_of_error rfl, bind_of_error rfl]
    exact ⟨.error classEq, same⟩

/-- What follows a run that was attempted may look at its failure, but not at what it says. -/
theorem attempt_bind {first second : Run α} {next next' : Except Failure α → Run β}
    (alike : Alike shown first second)
    (rest : ∀ outcome outcome', EndsAlike outcome outcome' →
      Alike shown (next outcome) (next' outcome')) :
    Alike shown (first.attempt >>= next) (second.attempt >>= next') := by
  have after := rest _ _ alike.outcome
  rw [Run.attempt_bind, Run.attempt_bind]
  refine ⟨after.outcome, ?_⟩
  rw [List.filter_append, List.filter_append, alike.effects, after.effects]

end Alike

end Run

/-- Endpoints that answer the same, or fail with the same class of failure. -/
inductive Endpoint.Alike : Endpoint → Endpoint → Prop where
  | fails {failure other : Failure} : SameClass failure other →
      Alike (.fails failure) (.fails other)
  | answers : Alike (.answers fields) (.answers fields)

theorem Endpoint.Alike.refl (endpoint : Endpoint) : endpoint.Alike endpoint := by
  cases endpoint with
  | fails failure => exact .fails (.refl failure)
  | answers fields => exact .answers

namespace Cluster
open Run (EndsAlike)
variable {cluster other : Cluster} {shown : Effect → Bool}

/-- Clusters whose parts fail at the same points, with the same classes of failure, and otherwise
answer the same. -/
structure Alike (first second : Cluster) : Prop where
  inCluster : Option.Rel SameClass first.inCluster second.inCluster
  kubeconfig : Option.Rel SameClass first.kubeconfig second.kubeconfig
  endpoint : first.endpoint.Alike second.endpoint

theorem endsAlike_ended {first second : Option Failure}
    (same : Option.Rel SameClass first second) : EndsAlike (ended first) (ended second) := by
  cases same with
  | none => exact .ok
  | some classEq => exact .error classEq

theorem Alike.loadKubeconfig (alike : cluster.Alike other) (file : Option Path)
    (context : Option String) : Run.Alike shown (cluster.loadKubeconfig file context)
      (other.loadKubeconfig file context) := by
  rw [loadKubeconfig_eq, loadKubeconfig_eq]
  exact ⟨endsAlike_ended alike.kubeconfig, rfl⟩

theorem Alike.loadInCluster (alike : cluster.Alike other) :
    Run.Alike shown cluster.loadInCluster other.loadInCluster := by
  rw [loadInCluster_eq, loadInCluster_eq]
  exact ⟨endsAlike_ended alike.inCluster, rfl⟩

theorem Alike.loadConfiguration (alike : cluster.Alike other) (file : Option Path)
    (context : Option String) : Run.Alike shown (cluster.loadConfiguration file context)
      (other.loadConfiguration file context) := by
  cases file with
  | some path => exact alike.loadKubeconfig _ _
  | none =>
    refine alike.loadInCluster.attempt_bind fun _ _ ends => ?_
    cases ends with
    | ok => exact .refl _
    | error classEq =>
      dsimp only
      rw [classEq.isConfiguration_eq]
      split
      · exact alike.loadKubeconfig _ _
      · exact .fail classEq

theorem alike_ask (alike : cluster.endpoint.Alike other.endpoint) :
    Run.Alike shown (Versioner.ofEndpoint cluster.endpoint).ask
      (Versioner.ofEndpoint other.endpoint).ask := by
  generalize cluster.endpoint = endpoint at alike
  generalize other.endpoint = endpoint' at alike
  cases alike with
  | answers => exact .refl _
  | fails classEq => exact .bind (.refl _) fun _ => .bind (.refl _) fun _ => .fail classEq

theorem alike_discover (file : Option Path) (context : Option String)
    (loaded : Run.Alike shown (cluster.loadConfiguration file context)
      (other.loadConfiguration file context))
    (endpoint : cluster.endpoint.Alike other.endpoint) :
    Run.Alike shown (cluster.discover file context) (other.discover file context) := by
  have discoverEq (cluster : Cluster) : cluster.discover file context =
      cluster.loadConfiguration file context >>= fun _ =>
        (Versioner.ofEndpoint cluster.endpoint).ask := by
    rw [discover, versioner, bind_assoc]
    simp only [pure_bind]
  rw [discoverEq, discoverEq]
  exact .bind loaded fun _ => alike_ask endpoint

/-- The cluster if the program had found itself within one. -/
def inside (cluster : Cluster) : Cluster := { cluster with inCluster := none }

/-- A failure that the default configuration makes up for is seen in the loads alone. -/
theorem alike_loadConfiguration_inside
    (outside : cluster.inCluster = some (.fault .configuration wording))
    (loads : cluster.kubeconfig = none) (file : Option Path) (context : Option String) :
    Run.Alike (fun effect => !effect.isLoad) (cluster.loadConfiguration file context)
      (cluster.inside.loadConfiguration file context) := by
  cases file with
  | some path => exact ⟨.refl _, rfl⟩
  | none =>
    have within : cluster.inside.Loading context none [.inCluster] (.ok ()) := .inside rfl
    rw [(Loading.outside outside).eq, within.eq, loads]
    exact ⟨.ok, rfl⟩

theorem alike_discover_inside (outside : cluster.inCluster = some (.fault .configuration wording))
    (loads : cluster.kubeconfig = none) (file : Option Path) (context : Option String) :
    Run.Alike (fun effect => !effect.isLoad) (cluster.discover file context)
      (cluster.inside.discover file context) :=
  alike_discover file context (alike_loadConfiguration_inside outside loads file context) (.refl _)

end Cluster

namespace Cli
open Run (Alike)

namespace CheckOptions
variable {options : CheckOptions} {cluster other : Cluster} {shown : Effect → Bool}

/-- All that is told of a failed retrieval. -/
def failureReport (name : String) : List Effect :=
  [.record
      { level := .error, event := "version_check.retrieval_failed",
        fields := [("error_type", .text name)] },
    .print .diagnostics
      (Text.plain ("Error: Failed to retrieve Kubernetes version: " ++ name) ++ "\n")]

/-- What a run does until its retrieval has ended. -/
def beforeFailure (options : CheckOptions) (cluster : Cluster) : List Effect :=
  options.config.resolve.effects
    ++ ((options.progress "Connecting to Kubernetes cluster...").effects
    ++ (cluster.discover options.kubeconfig options.context).effects)

theorem run_eq_of_failed {failure : Failure}
    (failed : (cluster.discover options.kubeconfig options.context).outcome = .error failure)
    (goesOn : failure.isInterrupt = false) : options.run cluster =
      ⟨.ok .networkError, options.beforeFailure cluster ++ failureReport failure.name⟩ := by
  rw [run, Run.bind_of_ok (Config.outcome_resolve _), Run.bind_of_ok (outcome_progress _ _),
    Run.attempt_bind, failed]
  dsimp only
  rw [goesOn, if_neg Bool.false_ne_true, beforeFailure, List.append_assoc, List.append_assoc]
  rfl

theorem isInterrupt_of_run_error (options : CheckOptions) {failure : Failure}
    (ended : (options.run cluster).outcome = .error failure) : failure.isInterrupt = true := by
  cases asked : (cluster.discover options.kubeconfig options.context).outcome with
  | ok info =>
    obtain ⟨code, _, _, judged, _⟩ := options.verdict_of_finding info
    rw [run_of_answered asked judged] at ended
    contradiction
  | error other =>
    rw [run_of_failed asked] at ended
    split at ended
    · rename_i interrupt
      exact Except.error.inj ended ▸ interrupt
    · contradiction

theorem alike_run (options : CheckOptions)
    (discovered : Alike shown (cluster.discover options.kubeconfig options.context)
      (other.discover options.kubeconfig options.context)) :
    Alike shown (options.run cluster) (options.run other) := by
  refine .bind (.refl _) fun minimum => .bind (.refl _) fun _ =>
    discovered.attempt_bind fun _ _ ends => ?_
  cases ends with
  | ok => exact .refl _
  | error classEq =>
    dsimp only
    rw [classEq.isInterrupt_eq]
    split
    · exact .fail classEq
    · rw [reportRetrieval, reportRetrieval, classEq.name_eq]
      exact .refl _

end CheckOptions

/-- Executions that end the same and do the same as far as it is shown. -/
structure Execution.Alike (shown : Effect → Bool) (first second : Execution) : Prop where
  outcome : first.run.outcome = second.run.outcome
  effects : first.run.effects.filter shown = second.run.effects.filter shown
  logSettings : first.logSettings = second.logSettings

/-- Executions that nobody can tell apart who sees their status, channels, records and spans. -/
structure Execution.LooksLike (first second : Execution) : Prop where
  status : first.status = second.status
  output : first.output = second.output
  diagnostics : ∀ stamp, first.diagnostics stamp = second.diagnostics stamp
  records : first.run.records = second.run.records
  spans : first.run.spans = second.run.spans

namespace Execution.Alike
variable {first second : Execution}

theorem eq_of_all (alike : first.Alike (fun _ => true) second) : first = second := by
  obtain ⟨⟨outcome, effects⟩, settings⟩ := first
  obtain ⟨⟨outcome', effects'⟩, settings'⟩ := second
  obtain ⟨rfl, effectsEq, rfl⟩ := alike
  simp only [List.filter_true] at effectsEq
  rw [effectsEq]

/-- What passes over loads sees none of them, and the same of executions that differ in loads. -/
theorem filterMap_eq {β : Type} (alike : first.Alike (fun effect => !effect.isLoad) second)
    {seen : Effect → Option β} (noLoad : ∀ l, seen (.load l) = none) :
    first.run.effects.filterMap seen = second.run.effects.filterMap seen := by
  have passedOver (effects : List Effect) :
      (effects.filter fun effect => !effect.isLoad).filterMap seen = effects.filterMap seen := by
    rw [List.filterMap_filter]
    refine List.filterMap_congr fun effect _ => ?_
    cases effect with
    | load l => simp [Effect.isLoad, noLoad]
    | _ => rfl
  rw [← passedOver, alike.effects, passedOver]

theorem looksLike (alike : first.Alike (fun effect => !effect.isLoad) second) :
    first.LooksLike second where
  status := congrArg (Except.map ExitCode.number) alike.outcome
  output := congrArg String.join (alike.filterMap_eq fun _ => rfl)
  diagnostics stamp := by
    rw [diagnostics, diagnostics, alike.logSettings]
    exact congrArg String.join (alike.filterMap_eq fun _ => rfl)
  records := alike.filterMap_eq fun _ => rfl
  spans := alike.filterMap_eq fun _ => rfl

end Execution.Alike

namespace Program
variable {surroundings : Surroundings} {given : List (Given CheckOption)} {options : CheckOptions}
variable {other : Cluster} {shown : Effect → Bool}

theorem alike_guarded {first second : Run ExitCode} (alike : Alike shown first second) :
    Alike shown (guarded first) (guarded second) := by
  refine alike.attempt_bind fun _ _ ends => ?_
  cases ends with
  | ok => exact .refl _
  | error classEq =>
    dsimp only
    rw [classEq.isInterrupt_eq]
    split
    · exact .refl _
    · exact .fail classEq

theorem outcome_guarded_ok {run : Run ExitCode}
    (caught : ∀ failure, run.outcome = .error failure → failure.isInterrupt = true) :
    ∃ code, (guarded run).outcome = .ok code := by
  cases ended : run.outcome with
  | ok code => exact ⟨code, by rw [guarded_of_ok ended, ended]⟩
  | error failure =>
    refine ⟨.generalError, ?_⟩
    rw [guarded, Run.attempt_bind, ended]
    dsimp only
    rw [caught failure ended, if_pos rfl]
    rfl

theorem alike_check
    (discovered : ∀ file context, Alike shown (surroundings.cluster.discover file context)
      (other.discover file context)) (arguments : List String) :
    (check surroundings arguments).Alike shown
      (check { surroundings with cluster := other } arguments) := by
  have optionsEq (given : List (Given CheckOption)) :
      checkOptions { surroundings with cluster := other } given =
        checkOptions surroundings given := rfl
  rw [check, check]
  cases Arguments.scan checkFlags true arguments none with
  | error e => exact ⟨rfl, rfl, rfl⟩
  | ok scanned =>
    dsimp only
    split
    · exact ⟨rfl, rfl, rfl⟩
    · rw [optionsEq]
      cases checkOptions surroundings scanned.given with
      | error obstacle => cases obstacle <;> exact ⟨rfl, rfl, rfl⟩
      | ok options =>
        dsimp only
        split
        · have alike := alike_guarded (options.alike_run (discovered _ _))
          have caught : ∀ failure, (options.run surroundings.cluster).outcome = .error failure →
              failure.isInterrupt = true := fun _ => options.isInterrupt_of_run_error
          obtain ⟨code, ended⟩ := outcome_guarded_ok caught
          exact ⟨alike.outcome.eq_of_ok ended, alike.effects, rfl⟩
        · exact ⟨rfl, rfl, rfl⟩

/-- The cluster is looked at by the check alone. -/
theorem alike_execute
    (discovered : ∀ file context, Alike shown (surroundings.cluster.discover file context)
      (other.discover file context)) (arguments : List String) :
    (execute surroundings arguments).Alike shown
      (execute { surroundings with cluster := other } arguments) := by
  rw [execute, execute]
  split
  · exact ⟨rfl, rfl, rfl⟩
  · cases Arguments.scan groupFlags false arguments none with
    | error e => exact ⟨rfl, rfl, rfl⟩
    | ok scanned =>
      dsimp only
      cases groupAnswer? scanned.given with
      | some run => exact ⟨rfl, rfl, rfl⟩
      | none =>
        dsimp only
        split
        · exact ⟨rfl, rfl, rfl⟩
        · exact alike_check discovered _
        · exact ⟨rfl, rfl, rfl⟩

theorem execute_eq_of_alike (alike : surroundings.cluster.Alike other) (arguments : List String) :
    execute { surroundings with cluster := other } arguments = execute surroundings arguments := by
  refine (alike_execute (fun file context => ?_) arguments).eq_of_all.symm
  exact Cluster.alike_discover file context (alike.loadConfiguration file context) alike.endpoint

/-- What is told of a failed retrieval by a check that ends with it. -/
theorem RunsCheck.run_of_failed {failure : Failure}
    (runs : RunsCheck surroundings arguments given options)
    (failed : (surroundings.cluster.discover options.kubeconfig options.context).outcome =
      .error failure) (goesOn : failure.isInterrupt = false) :
    (Program.execute surroundings arguments).run = ⟨.ok .networkError,
      options.beforeFailure surroundings.cluster ++ CheckOptions.failureReport failure.name⟩ := by
  have ran := CheckOptions.run_eq_of_failed failed goesOn
  exact (runs.run_of_ok (by rw [ran])).trans ran

/-- A failed retrieval is told by the name of its failure and nothing else. Clusters whose parts
fail at the same points with failures of the same classes make every command line do the same,
whatever the failures say. A check whose retrieval fails other than by an interrupt exits with 8,
puts nothing on the output channel, and all that it does after the retrieval is made of the name of
the failure. A missing configuration inside a cluster that the default file makes up for is not seen:
the status, both channels, the records and the spans are those of a program that ran within the
cluster. -/
theorem failure_told_by_class (surroundings : Surroundings) (arguments : List String) :
    (∀ other, surroundings.cluster.Alike other →
      execute { surroundings with cluster := other } arguments = execute surroundings arguments) ∧
    (∀ given options failure, RunsCheck surroundings arguments given options →
      (surroundings.cluster.discover options.kubeconfig options.context).outcome = .error failure →
      (∀ wording, failure ≠ .fault .interrupt wording) →
      (execute surroundings arguments).status = .ok 8 ∧
      (execute surroundings arguments).output = "" ∧
      (execute surroundings arguments).run.effects =
        options.beforeFailure surroundings.cluster ++ CheckOptions.failureReport failure.name) ∧
    ∀ wording, surroundings.cluster.inCluster = some (.fault .configuration wording) →
      surroundings.cluster.kubeconfig = none →
      (execute surroundings arguments).LooksLike
        (execute { surroundings with cluster := surroundings.cluster.inside } arguments) := by
  refine ⟨fun _ alike => execute_eq_of_alike alike arguments, ?_, ?_⟩
  · intro given options failure runs failed other
    have ran := runs.run_of_failed failed (isInterrupt_eq_false other)
    refine ⟨?_, runs.output_of_failed failed, congrArg Run.effects ran⟩
    rw [Execution.status, ran]
    rfl
  · intro wording outside loads
    refine (alike_execute (fun file context => ?_) arguments).looksLike
    exact Cluster.alike_discover_inside outside loads file context

/-- A check with progress, out of which neither the token in the answer of the cluster gets nor the
place where no configuration was found. -/
theorem failure_told_by_class_token :
    let cluster : Cluster :=
      { inCluster := some (.ofText .configuration "no token at /var/run/secrets")
        endpoint := .fails (.refusal (some 401) (some "Bearer eyJhbGciOi is expired")) }
    let bare : Cluster :=
      { inCluster := some (.fault .configuration .silent), endpoint := .fails (.refusal none none) }
    let arguments := ["check", "-o", "json", "-v"]
    cluster.Alike bare ∧
    RunsCheck { cluster } arguments [⟨.outputFormat, some "json"⟩, ⟨.verbose, none⟩]
      { format := .json, verbose := true } ∧
    execute { cluster := bare } arguments = execute { cluster } arguments ∧
    (execute { cluster } arguments).status = .ok 8 ∧
    (execute { cluster } arguments).output = "" ∧
    (execute { cluster } arguments).run.effects =
      CheckOptions.beforeFailure { format := .json, verbose := true } cluster ++
        CheckOptions.failureReport "ApiException" ∧
    (execute { cluster } arguments).LooksLike
      (execute { cluster := cluster.inside } arguments) := by
  intro cluster bare arguments
  have alike : cluster.Alike bare := ⟨.some .fault, .none, .fails .refusal⟩
  have runs := runsCheck_format { cluster } readFormat_json true
  obtain ⟨byClass, failed, recovered⟩ := failure_told_by_class { cluster } arguments
  obtain ⟨status, output, effects⟩ := failed _ _ _ runs rfl nofun
  exact ⟨alike, runs, byClass bare alike, status, output, effects, recovered _ rfl rfl⟩

end Program

end Cli

end VersionGate
