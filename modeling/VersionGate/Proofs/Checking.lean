import VersionGate.Check
import VersionGate.Proofs.Effects
import VersionGate.Proofs.Wording

/-! A check seen from outside: what it ends with depends on the version its versioner answers and on
the minimum alone, and what it does by itself is to ask, to record and to trace. It loads nothing
and prints nothing. -/
namespace VersionGate

/-- What a check does by itself. -/
inductive Effect.OfCheck : Effect → Prop where
  | record {r : Log.Record} : OfCheck (.record r)
  | mark {key : String} {value : Value} : OfCheck (.mark key value)
  | span {s : Span} : OfCheck (.span s)
  | query : OfCheck .query

theorem Effect.OfCheck.noLoad (own : OfCheck effect) : effect.NoLoad := by
  intro l same
  cases own <;> cases same

theorem Effect.OfCheck.noPrint (own : OfCheck effect) : effect.NoPrint := by
  intro channel text same
  cases own <;> cases same

theorem Effect.OfCheck.noResult (own : OfCheck effect) : effect.NoResult :=
  own.noPrint.noResult

namespace Comparison
open Run (Only)

theorem only_readAs (role : Role) (text : String) : (readAs role text).Only Effect.OfCheck := by
  rw [readAs]
  split
  · exact Only.pure _
  · exact Only.bind (Only.perform .record) fun _ => Only.fail _

theorem only_judge (current least : Version) (overrideKey : String) :
    (judge current least overrideKey).Only Effect.OfCheck := by
  refine Only.bind (Only.ofExcept _) fun _ => Only.bind (Only.ofExcept _) fun _ => ?_
  split
  · exact Only.bind (Only.perform .record) fun _ => Only.fail _
  · exact Only.perform .record

theorem only_compareVersions (current minimum overrideKey : String) :
    (compareVersions current minimum overrideKey).Only Effect.OfCheck :=
  Only.bind (only_readAs _ _) fun _ => Only.bind (only_readAs _ _) fun _ =>
    Only.bind (Only.ofExcept _) fun _ => only_judge _ _ _

end Comparison

theorem Effect.OfCheck.enclosed {effect outside : Effect} (own : effect.OfCheck)
    (encloses : Run.enclosed effect = some outside) : outside.OfCheck := by
  cases own <;> simp only [Run.enclosed, reduceCtorEq, Option.some.injEq] at encloses
  · exact encloses ▸ .record
  · exact encloses ▸ .span
  · exact encloses ▸ .query

theorem Run.outcome_withinSpan (override : Bool) (extra : Fields) (body : Run α) :
    (withinSpan override extra body).outcome = passedOn body.outcome := rfl

theorem Run.Only.withinSpan {body : Run α} {override : Bool} {extra : Fields}
    (only : body.Only Effect.OfCheck) : (withinSpan override extra body).Only Effect.OfCheck := by
  refine List.forall_mem_append.mpr ⟨fun effect member => ?_, List.forall_mem_singleton.mpr .span⟩
  obtain ⟨inner, innerMember, encloses⟩ := List.mem_filterMap.mp member
  exact (only inner innerMember).enclosed encloses

/-- The span around a comparison passes on what it ends with. -/
theorem Comparison.outcome_traced (override : Bool) (current minimum : String) :
    (traced override current minimum).outcome =
      (compareVersions current minimum Config.variableName).outcome := by
  rw [traced, Run.outcome_withinSpan]
  exact Run.passedOn_of_isTold (isTold_compareVersions current minimum Config.variableName)

namespace Config

/-- The minimum that a text stands for, if there is one: itself, but an empty text is none. -/
def inForce : Option String → String
  | some text => if text = "" then "v1.18.0" else text
  | none => "v1.18.0"

theorem minimum_eq_inForce (config : Config) : config.minimum = inForce config.minVersion := by
  obtain ⟨_ | text⟩ := config
  · rfl
  · by_cases empty : text = "" <;>
      simp [minimum, override?, inForce, Option.filter_some, empty, defaultMinimum]

theorem inForce_filter (minVersion : Option String) :
    inForce (minVersion.filter fun text => !text.isEmpty) = inForce minVersion := by
  cases minVersion with
  | none => rfl
  | some text => by_cases empty : text = "" <;> simp [inForce, Option.filter_some, empty]

theorem minVersion_ofVariable (variableValue : Option String) :
    (ofVariable variableValue).minVersion = variableValue.filter fun text => !text.isEmpty := by
  cases variableValue with
  | none => rfl
  | some text => by_cases empty : text = "" <;> simp [ofVariable, Option.filter_some, empty]

theorem minimum_ofVariable (variableValue : Option String) :
    (ofVariable variableValue).minimum = inForce variableValue := by
  rw [minimum_eq_inForce, minVersion_ofVariable, inForce_filter]

theorem outcome_resolve (config : Config) : config.resolve.outcome = .ok config.minimum := by
  rw [resolve]
  split <;> rfl

theorem only_resolve (config : Config) : config.resolve.Only Effect.OfCheck := by
  rw [resolve]
  split
  · exact Run.Only.perform .record
  · exact Run.Only.pure _

end Config

theorem only_checkMinimumVersion {versioner : Versioner} {config : Option Config}
    {variableValue : Option String} (only : versioner.serverVersion.Only Effect.OfCheck) :
    (checkMinimumVersion versioner config variableValue).Only Effect.OfCheck := by
  have asked : versioner.ask.Only Effect.OfCheck :=
    Run.Only.bind (Run.Only.perform .query) fun _ => only
  refine Run.Only.bind asked fun _ => Run.Only.bind (Config.only_resolve _) fun _ => ?_
  refine Run.Only.bind (Run.Only.perform .record) fun _ => Run.Only.withinSpan ?_
  refine Run.Only.bind (Run.Only.perform .mark) fun _ => ?_
  refine Run.Only.bind (Run.Only.perform .mark) fun _ => ?_
  exact Comparison.only_compareVersions _ _ _

/-- Records and the span take no part in the outcome, and neither does all else that a server tells
of itself. -/
theorem outcome_checkMinimumVersion {versioner : Versioner} {info : ServerInfo}
    (answers : versioner.ask.outcome = .ok info) (config : Option Config)
    (variableValue : Option String) :
    (checkMinimumVersion versioner config variableValue).outcome =
      (Comparison.compareVersions info.gitVersion (Config.effective config variableValue).minimum
        Config.variableName).outcome := by
  simp only [checkMinimumVersion, Run.bind_of_ok answers,
    Run.bind_of_ok (Config.outcome_resolve _), Run.record, Run.perform_bind,
    Comparison.outcome_traced]

/-- A check that got a version goes on to the minimum, opens with both, and compares in its span. -/
theorem effects_checkMinimumVersion {versioner : Versioner} {info : ServerInfo}
    (answers : versioner.ask.outcome = .ok info) (config : Option Config)
    (variableValue : Option String) :
    (checkMinimumVersion versioner config variableValue).effects = versioner.ask.effects ++
      (Config.effective config variableValue).resolve.effects ++
      [.record
        { level := .info, event := "version_check.started",
          fields := [("git_version", .text info.gitVersion),
            ("minimum_version", .text (Config.effective config variableValue).minimum),
            ("override", .bool (Config.effective config variableValue).isOverride)] }] ++
      (Comparison.traced (Config.effective config variableValue).isOverride info.gitVersion
        (Config.effective config variableValue).minimum).effects := by
  rw [checkMinimumVersion, Run.bind_of_ok answers, Run.bind_of_ok (Config.outcome_resolve _),
    Run.record, Run.perform_bind]
  simp only [List.append_assoc, List.cons_append, List.nil_append]

/-- A checker settles its configuration by itself, and ends where a check without it would. -/
theorem Checker.check_eq (checker : Checker) (versioner : Versioner)
    (variableValue : Option String) : checker.check versioner variableValue =
      checkMinimumVersion versioner checker.config variableValue := rfl

end VersionGate
