import VersionGate.Proofs.Reporting

/-! Where a check takes its minimum from. Several ways resolve it, each for itself, and all arrive at
the text that was given, or at the default where there is none: who asks for the minimum is told the
one that the check enforces and names in its record, its span and its error. -/
namespace VersionGate

namespace Config

/-- The text that a minimum is taken from: that of a configuration, and that of the variable only
where there is no configuration. -/
def source (config : Option Config) (variableValue : Option String) : Option String :=
  match config with
  | some config => config.minVersion
  | none => variableValue

/-- The minimum that a text stands for, and whether it was asked for. Nothing is cut off the text,
and it need not be a version. -/
inductive Resolves : Option String → String → Bool → Prop where
  | given {text : String} (named : text ≠ "") : Resolves (some text) text true
  | empty : Resolves (some "") "v1.18.0" false
  | absent : Resolves none "v1.18.0" false

theorem Resolves.of_named {text least : String} {overridden : Bool}
    (resolves : Resolves (some text) least overridden) (named : text ≠ "") :
    least = text ∧ overridden = true := by
  cases resolves with
  | given => exact ⟨rfl, rfl⟩
  | empty => exact absurd rfl named

theorem inForce_ne_empty (given : Option String) : inForce given ≠ "" := by
  cases given with
  | none => simp [inForce]
  | some text => by_cases empty : text = "" <;> simp [inForce, empty]

theorem minimum_effective (config : Option Config) (variableValue : Option String) :
    (effective config variableValue).minimum = inForce (source config variableValue) := by
  cases config with
  | some config => exact minimum_eq_inForce config
  | none => exact minimum_ofVariable variableValue

theorem overriding_eq (config : Option Config) (variableValue : Option String) :
    overriding config variableValue =
      (source config variableValue).filter fun text => text ≠ "" := by
  cases config <;> rfl

theorem getD_overriding (config : Option Config) (variableValue : Option String) :
    (overriding config variableValue).getD "v1.18.0" = inForce (source config variableValue) := by
  rw [← override?_effective, ← minimum_effective]
  rfl

theorem isOverride_effective (config : Option Config) (variableValue : Option String) :
    (effective config variableValue).isOverride = (overriding config variableValue).isSome := by
  rw [isOverride, override?_effective]

theorem resolves_source (config : Option Config) (variableValue : Option String) :
    Resolves (source config variableValue) (inForce (source config variableValue))
      (overriding config variableValue).isSome := by
  rw [overriding_eq]
  cases source config variableValue with
  | none => exact .absent
  | some text =>
    by_cases empty : text = ""
    · subst empty
      exact .empty
    · have kept : (some text).filter (fun text => decide (text ≠ "")) = some text := by
        simp [Option.filter_some, empty]
      rw [kept, inForce, if_neg empty]
      exact .given empty

/-- A text that is not empty, put into the variable, is taken from there as it is. -/
theorem ofEnvironment_of_text {environment : Fields} (named : text ≠ "")
    (holds : environment.get? "KUBERNETES_MIN_VERSION" = some (.text text)) :
    ofEnvironment environment = .ok { minVersion := some text } := by
  have isSet : (Value.text text).isUnset = false := by
    simpa [Value.isUnset] using named
  have variableText : environment.get? variableName = some (.text text) := holds
  rw [ofEnvironment, variableText]
  simp only [isSet]
  rfl

end Config

/-- The last that a check does by itself, from the record it starts with: that record and the span
tell the minimum and whether it was asked for. -/
structure Told (minimum : String) (overridden : Bool) (opening : List Log.Record)
    (started verdict : Log.Record) (span : Span) : Prop where
  starts : started.event = "version_check.started"
  starts_once : ∀ r ∈ opening ++ [verdict], r.event ≠ "version_check.started"
  record_minimum : started.fields.get? "minimum_version" = some (.text minimum)
  record_override : started.fields.get? "override" = some (.bool overridden)
  span_name : span.name = "k8s_version.check"
  span_minimum : span.attributes.get? "k8s_version.minimum" = some (.text minimum)
  span_override : span.attributes.get? "k8s_version.override" = some (.bool overridden)

/-- A check of a server that answered, of which all that follows the answer tells one minimum: the
records and the one span, and the error for a minimum that is no version. -/
structure Enforces (versioner : Versioner) (minimum : String) (overridden : Bool)
    (check : Run Unit) : Prop where
  told : ∃ opening started verdict span, check.effects =
      .query :: versioner.serverVersion.effects ++ opening.map .record ++
        [.record started, .record verdict, .span span] ∧
    Told minimum overridden opening started verdict span
  refused : ∀ {version reason cause},
    check.outcome = .error (.check (.malformed version "minimum" reason) cause) → version = minimum

/-- Whatever a comparison ends with, its span keeps the attributes that it was given before. -/
theorem Agree.get?_attributes {override : Option String} {gitVersion : String}
    {result : Except Failure Unit} {verdict : Log.Record} {span : Span}
    {key : String} {value : Value} (agree : Agree override gitVersion result verdict span)
    (known : (checkAttributes override gitVersion).get? key = some value) :
    span.attributes.get? key = some value := by
  cases result with
  | ok a => rw [agree.passed rfl, known]
  | error failure =>
    obtain ⟨_, text, _, attributes⟩ := agree.failed rfl
    rw [attributes, Fields.get?_append, known]
    rfl

theorem Agree.told {override : Option String} {gitVersion : String}
    {result : Except Failure Unit} {verdict : Log.Record} {span : Span}
    (agree : Agree override gitVersion result verdict span) :
    ∃ opening started, announcement override gitVersion = opening ++ [started] ∧
      Told (override.getD "v1.18.0") override.isSome opening started verdict span := by
  refine ⟨_, _, rfl, rfl, ?_, rfl, rfl, agree.name, agree.get?_attributes rfl,
    agree.get?_attributes rfl⟩
  intro r member
  rcases List.mem_append.mp member with opening | last
  · obtain ⟨text, _, rfl⟩ := List.mem_map.mp opening
    simp
  · obtain rfl := List.mem_singleton.mp last
    have oneOfThree := agree.one_of_three
    intro starts
    simp [starts] at oneOfThree

/-- A comparison that cannot read a version names the one of its two texts that is none. -/
theorem Comparison.malformed_names {version role reason : String} {cause : Option Version.Error}
    (failed : (compareVersions current minimum overrideKey).outcome =
      .error (.check (.malformed version role reason) cause)) :
    role = "current" ∧ version = current ∨ role = "minimum" ∧ version = minimum := by
  generalize same : Failure.check (.malformed version role reason) cause = failure at failed
  cases verdict_of_outcome failed with
  | malformedCurrent =>
    cases same
    exact .inl ⟨rfl, rfl⟩
  | malformedMinimum =>
    cases same
    exact .inr ⟨rfl, rfl⟩
  | tooLow => cases same

/-- The records of a check up to the one it starts with, by the minimum that it goes on with. -/
theorem map_announcement (config : Option Config) (variableValue : Option String)
    (gitVersion : String) :
    (announcement (Config.overriding config variableValue) gitVersion).map Effect.record =
      (Config.effective config variableValue).resolve.effects ++
        [.record
          { level := .info, event := "version_check.started",
            fields := [("git_version", .text gitVersion),
              ("minimum_version", .text (Config.effective config variableValue).minimum),
              ("override", .bool (Config.effective config variableValue).isOverride)] }] := by
  rw [Config.effects_resolve, Config.override?_effective, Config.minimum_effective,
    ← Config.getD_overriding, Config.isOverride_effective]
  simp [announcement]

theorem enforces_checkMinimumVersion {versioner : Versioner} {info : ServerInfo}
    (answers : versioner.serverVersion.outcome = .ok info) (config : Option Config)
    (variableValue : Option String) :
    Enforces versioner (Config.inForce (Config.source config variableValue))
      (Config.overriding config variableValue).isSome
      (checkMinimumVersion versioner config variableValue) := by
  have asked : versioner.ask.outcome = .ok info := answers
  refine ⟨?_, ?_⟩
  · obtain ⟨verdict, span, traced, agree⟩ :=
      Comparison.effects_traced (Config.overriding config variableValue) info.gitVersion
    obtain ⟨opening, started, announced, told⟩ := agree.told
    rw [Config.getD_overriding] at traced told
    refine ⟨opening, started, verdict, span, ?_, told⟩
    have opens := map_announcement config variableValue info.gitVersion
    have ask : versioner.ask.effects = .query :: versioner.serverVersion.effects := rfl
    rw [effects_checkMinimumVersion asked, List.append_assoc versioner.ask.effects, ← opens,
      announced, Config.isOverride_effective, Config.minimum_effective, traced, ask]
    simp
  · intro version reason cause failed
    rw [outcome_checkMinimumVersion asked, Config.minimum_effective] at failed
    obtain ⟨current, _⟩ | ⟨_, same⟩ := Comparison.malformed_names failed
    · exact absurd current (by decide)
    · exact same

/-- All ways to the minimum lead to the same one. It is asked for by a function or at a checker, and
a check that got a version tells of it in the record that it starts with, in its span and in the
error for a minimum that is no version. A configuration hides the variable, though it set nothing,
and the minimum, put into the variable, is taken from there again. -/
theorem minimum_resolution_agrees (config : Option Config) (variableValue : Option String) :
    ∃ minimum overridden,
      Config.Resolves (Config.source config variableValue) minimum overridden ∧
      (getMinimumVersion config variableValue).outcome = .ok minimum ∧
      (Checker.minimumVersion { config } variableValue).outcome = .ok minimum ∧
      (∀ versioner info, versioner.serverVersion.outcome = .ok info →
        Enforces versioner minimum overridden
          (checkMinimumVersion versioner config variableValue) ∧
        Enforces versioner minimum overridden
          (Checker.check { config } versioner variableValue)) ∧
      (∀ explicit, config = some explicit → ∀ other versioner,
        getMinimumVersion config other = getMinimumVersion config variableValue ∧
        Checker.minimumVersion { config } other =
          Checker.minimumVersion { config } variableValue ∧
        checkMinimumVersion versioner config other =
          checkMinimumVersion versioner config variableValue ∧
        Checker.check { config } versioner other =
          Checker.check { config } versioner variableValue) ∧
      ∀ environment : Fields, environment.get? "KUBERNETES_MIN_VERSION" = some (.text minimum) →
        ∃ reread, Config.ofEnvironment environment = .ok reread ∧ reread.minVersion = some minimum ∧
          reread.resolve.outcome = .ok minimum := by
  have resolved : (Config.effective config variableValue).resolve.outcome =
      .ok (Config.inForce (Config.source config variableValue)) := by
    rw [Config.outcome_resolve, Config.minimum_effective]
  refine ⟨_, _, Config.resolves_source config variableValue, resolved, resolved, ?_, ?_, ?_⟩
  · intro versioner info answers
    have enforces := enforces_checkMinimumVersion answers config variableValue
    exact ⟨enforces, enforces⟩
  · rintro explicit rfl other versioner
    exact ⟨rfl, rfl, rfl, rfl⟩
  · intro environment holds
    have named := Config.inForce_ne_empty (Config.source config variableValue)
    refine ⟨_, Config.ofEnvironment_of_text named holds, rfl, ?_⟩
    rw [Config.outcome_resolve, Config.minimum_eq_inForce, Config.inForce, if_neg named]

/-- A configuration asks for a text with a blank in front, which is no version; the variable that it
hides asks for another. -/
theorem minimum_resolution_agrees_blank :
    let config : Config := { minVersion := some " v1.18.0" }
    let versioner := Versioner.resolved { gitVersion := "v1.29.0" }
    versioner.serverVersion.outcome = .ok { gitVersion := "v1.29.0" } ∧
    (getMinimumVersion config (some "v1.30.0")).outcome = .ok " v1.18.0" ∧
    (Checker.minimumVersion { config } (some "v1.30.0")).outcome = .ok " v1.18.0" ∧
    Enforces versioner " v1.18.0" true (checkMinimumVersion versioner config (some "v1.30.0")) ∧
    Enforces versioner " v1.18.0" true (Checker.check { config } versioner (some "v1.30.0")) ∧
    (∃ reason cause, (checkMinimumVersion versioner config (some "v1.30.0")).outcome =
      .error (.check (.malformed " v1.18.0" "minimum" reason) cause)) ∧
    checkMinimumVersion versioner config none =
      checkMinimumVersion versioner config (some "v1.30.0") ∧
    ∃ reread, Config.ofEnvironment [("KUBERNETES_MIN_VERSION", .text " v1.18.0")] = .ok reread ∧
      reread.resolve.outcome = .ok " v1.18.0" := by
  intro config versioner
  have answers : versioner.serverVersion.outcome = .ok { gitVersion := "v1.29.0" } := rfl
  have currentRead : Version.read "v1.29.0" = .ok ⟨1, 29, 0, [], []⟩ := by decide +kernel
  have minimumRead : Version.read " v1.18.0" = .error (.malformed " v1.18.0") := by
    decide +kernel
  have asked : versioner.ask.outcome = .ok { gitVersion := "v1.29.0" } := rfl
  have refused : (checkMinimumVersion versioner config (some "v1.30.0")).outcome = _ :=
    (outcome_checkMinimumVersion asked config (some "v1.30.0")).trans
      (Comparison.Verdict.malformedMinimum currentRead minimumRead).outcome
  obtain ⟨minimum, overridden, resolves, function, checker, enforces, hides, rereads⟩ :=
    minimum_resolution_agrees config (some "v1.30.0")
  have named : " v1.18.0" ≠ "" := by decide
  obtain ⟨rfl, rfl⟩ := Config.Resolves.of_named resolves named
  obtain ⟨direct, bound⟩ := enforces versioner _ answers
  obtain ⟨reread, read, _, again⟩ := rereads [("KUBERNETES_MIN_VERSION", .text " v1.18.0")] rfl
  exact ⟨answers, function, checker, direct, bound, ⟨_, _, refused⟩,
    (hides config rfl none versioner).2.2.1, reread, read, again⟩

end VersionGate
