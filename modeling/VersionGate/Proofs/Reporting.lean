import VersionGate.Proofs.Attributes
import VersionGate.Proofs.Checking

/-! What a check tells of itself. It has three voices: its outcome, its records and its span. Each
is made in a place of its own, and they agree whatever the two versions are. -/
namespace VersionGate

namespace Span

theorem put_of_new {attributes : Fields} {entry : String × Value} (named : entry.1 ≠ "")
    (new : entry.1 ∉ attributes.map Prod.fst) (room : attributes.length < 128) :
    put attributes entry = attributes ++ [entry] := by
  have othersEq : others entry.1 attributes = attributes := by
    apply List.filter_eq_self.mpr
    intro known member
    have apart : known.1 ≠ entry.1 := fun same => new (same ▸ List.mem_map_of_mem member)
    simpa using apart
  rw [put_of_room named (othersEq.symm ▸ room), othersEq]

/-- Attributes of different names stay as they were set, in their order, while there is room. -/
theorem foldl_put {attributes more : Fields} (named : ∀ entry ∈ more, entry.1 ≠ "")
    (distinct : ((attributes ++ more).map Prod.fst).Nodup)
    (room : (attributes ++ more).length ≤ 128) :
    more.foldl put attributes = attributes ++ more := by
  induction more generalizing attributes with
  | nil => exact (List.append_nil attributes).symm
  | cons entry more ih =>
    obtain ⟨entryNamed, moreNamed⟩ := List.forall_mem_cons.mp named
    have split : attributes ++ entry :: more = attributes ++ [entry] ++ more := by simp
    have new : entry.1 ∉ attributes.map Prod.fst := by
      rw [List.map_append, List.map_cons] at distinct
      intro known
      exact (List.nodup_append.mp distinct).2.2 _ known _ List.mem_cons_self rfl
    have free : attributes.length < 128 := by
      simp only [List.length_append, List.length_cons] at room
      omega
    rw [List.foldl_cons, put_of_new entryNamed new free, split]
    rw [split] at distinct room
    exact ih moreNamed distinct room

end Span

namespace Comparison

/-- The record in which a comparison says how it ended, with what the error holds where it failed. -/
inductive Recorded : Except Failure Unit → Log.Record → Prop where
  | passed : Recorded (.ok ())
      { level := .debug, event := "version_check.passed",
        fields := [("current_version", .text current), ("minimum_version", .text least)] }
  | incompatible : Recorded
      (.error (.check (.incompatible current least overrideKey prerelease) cause))
      { level := .error, event := "version_check.incompatible",
        fields := [("current_version", .text current), ("minimum_version", .text least),
          ("prerelease", .bool prerelease)] }
  | malformed : Recorded (.error (.check (.malformed version role reason) cause))
      { level := .warning, event := "version_check.parse_failed",
        fields := [("role", .text role), ("version", .text version), ("error", .text reason)] }

theorem recorded_readAs_of_error (read : Version.read text = .error e) :
    ∃ r, Recorded (.error (.check (.malformed text (Role.name role) e.message) (some e))) r ∧
      (readAs role text).effects = [.record r] := by
  refine ⟨_, .malformed, ?_⟩
  rw [readAs, read]
  rfl

theorem recorded_judge (currentWritable : current.isWritable = true)
    (leastWritable : least.isWritable = true) :
    ∃ r, Recorded (judge current least overrideKey).outcome r ∧
      (judge current least overrideKey).effects = [.record r] := by
  rw [judge, textOf_eq currentWritable, textOf_eq leastWritable, pure_bind, pure_bind]
  split
  · exact ⟨_, .incompatible, rfl⟩
  · exact ⟨_, .passed, rfl⟩

/-- A comparison does nothing but record its outcome, once. -/
theorem recorded_compareVersions (current minimum overrideKey : String) :
    ∃ r, Recorded (compareVersions current minimum overrideKey).outcome r ∧
      (compareVersions current minimum overrideKey).effects = [.record r] := by
  cases currentRead : Version.read current with
  | error e =>
    have ended : (readAs .current current).outcome = _ := outcome_readAs_of_error currentRead
    rw [compareVersions, Run.bind_of_error ended]
    exact recorded_readAs_of_error currentRead
  | ok c =>
    cases minimumRead : Version.read minimum with
    | error e =>
      have ended : (readAs .minimum minimum).outcome = _ := outcome_readAs_of_error minimumRead
      rw [compareVersions, readAs_of_ok currentRead, pure_bind, Run.bind_of_error ended]
      exact recorded_readAs_of_error minimumRead
    | ok m =>
      rw [compareVersions_of_read currentRead minimumRead]
      exact recorded_judge (Version.isWritable_of_parse currentRead)
        (Version.isWritable_lowest (Version.isWritable_of_parse minimumRead))

end Comparison

namespace Config

/-- The text that asks for a minimum other than the default: that of a configuration, and that of
the variable where there is none. An empty text asks for nothing. -/
def overriding (config : Option Config) (variableValue : Option String) : Option String :=
  (match config with
    | some config => config.minVersion
    | none => variableValue).filter fun text => text ≠ ""

theorem override?_effective (config : Option Config) (variableValue : Option String) :
    (effective config variableValue).override? = overriding config variableValue := by
  have notEmpty : (fun text : String => !text.isEmpty) = fun text => decide (text ≠ "") := by
    funext text
    by_cases empty : text = "" <;> simp [empty]
  cases config with
  | some config =>
    rw [overriding, ← notEmpty]
    rfl
  | none =>
    have variableText : (effective none variableValue).minVersion = _ :=
      minVersion_ofVariable variableValue
    rw [override?, variableText, Option.filter_filter, overriding, ← notEmpty]
    simp

end Config

/-- The records with which a check opens, before it compares: the override if there is one, and then
the two versions as they were given. -/
def announcement (override : Option String) (gitVersion : String) : List Log.Record :=
  (override.toList.map fun text =>
    { level := .debug, event := "version_check.override_used",
      fields := [("key", .text "KUBERNETES_MIN_VERSION"), ("min_version", .text text)] }) ++
  [{ level := .info, event := "version_check.started",
     fields := [("git_version", .text gitVersion),
       ("minimum_version", .text (override.getD "v1.18.0")), ("override", .bool override.isSome)] }]

/-- The attributes that a check gives its span before it compares. -/
def checkAttributes (override : Option String) (gitVersion : String) : Fields :=
  [("k8s_version.override", .bool override.isSome), ("k8s_version.current", .text gitVersion),
    ("k8s_version.minimum", .text (override.getD "v1.18.0"))]

/-- The one record within the span of a check and the span itself, beside what the check ends
with. -/
structure Agree (override : Option String) (gitVersion : String) (result : Except Failure Unit)
    (verdict : Log.Record) (span : Span) : Prop where
  name : span.name = "k8s_version.check"
  no_events : span.events = []
  inside : verdict.inSpan = true
  one_of_three : verdict.event ∈
    ["version_check.passed", "version_check.incompatible", "version_check.parse_failed"]
  passed_iff : verdict.event = "version_check.passed" ↔ result = .ok ()
  ok_iff : span.status = .ok ↔ result = .ok ()
  incompatible_iff : verdict.event = "version_check.incompatible" ↔
    ∃ current least overrideKey prerelease cause,
      result = .error (.check (.incompatible current least overrideKey prerelease) cause)
  malformed_iff : verdict.event = "version_check.parse_failed" ↔
    ∃ version role reason cause, result = .error (.check (.malformed version role reason) cause)
  role : ∀ {version role reason cause},
    result = .error (.check (.malformed version role reason) cause) →
      verdict.fields.get? "role" = some (.text role)
  passed : result = .ok () → span.attributes = checkAttributes override gitVersion
  failed : ∀ {failure}, result = .error failure → span.status = .error failure.name ∧
    ∃ text, failure.print = .ok text ∧
      span.attributes = checkAttributes override gitVersion ++
        [("exception.type", .text failure.name), ("exception.message", .text text)]

namespace Comparison.Recorded
variable {result : Except Failure Unit} {r : Log.Record}

theorem event_mem (recorded : Recorded result r) : r.event ∈
    ["version_check.passed", "version_check.incompatible", "version_check.parse_failed"] := by
  cases recorded <;> simp

theorem passed_iff (recorded : Recorded result r) :
    r.event = "version_check.passed" ↔ result = .ok () := by
  cases recorded <;> simp

theorem incompatible_iff (recorded : Recorded result r) :
    r.event = "version_check.incompatible" ↔ ∃ current least overrideKey prerelease cause,
      result = .error (.check (.incompatible current least overrideKey prerelease) cause) := by
  cases recorded <;> simp

theorem malformed_iff (recorded : Recorded result r) :
    r.event = "version_check.parse_failed" ↔ ∃ version role reason cause,
      result = .error (.check (.malformed version role reason) cause) := by
  cases recorded <;> simp

theorem get?_role (recorded : Recorded (.error (.check (.malformed version role reason) cause)) r) :
    r.fields.get? "role" = some (.text role) := by
  cases recorded
  rfl

theorem exists_text {failure : Failure} (recorded : Recorded (.error failure) r) :
    ∃ text, failure.print = .ok text := by
  cases recorded <;> exact ⟨_, rfl⟩

/-- A comparison asks nobody, so nothing interrupts it. -/
theorem isInterrupt_eq_false {failure : Failure} (recorded : Recorded (.error failure) r) :
    failure.isInterrupt = false := by
  cases recorded <;> rfl

theorem agree (recorded : Recorded result r) (override : Option String) (gitVersion : String) :
    Agree override gitVersion result { r with inSpan := true }
      { name := Span.checkName, scope := Span.checkScope, status := Run.spanStatus result,
        attributes := checkAttributes override gitVersion ++ Run.failureMarks result } where
  name := rfl
  no_events := rfl
  inside := rfl
  one_of_three := recorded.event_mem
  passed_iff := recorded.passed_iff
  incompatible_iff := recorded.incompatible_iff
  malformed_iff := recorded.malformed_iff
  ok_iff := by
    cases result with
    | ok => simp [Run.spanStatus]
    | error failure => simp [Run.spanStatus, recorded.isInterrupt_eq_false]
  role := by
    rintro version role reason cause rfl
    exact recorded.get?_role
  passed := by
    rintro rfl
    exact List.append_nil _
  failed := by
    rintro failure rfl
    have goesOn := recorded.isInterrupt_eq_false
    obtain ⟨text, told⟩ := recorded.exists_text
    rw [Run.spanStatus, goesOn, Run.failureMarks_of_text goesOn told]
    exact ⟨rfl, text, told, rfl⟩

end Comparison.Recorded

namespace Comparison

theorem failureMarks_of_recorded {result : Except Failure Unit} {r : Log.Record}
    (recorded : Recorded result r) : Run.failureMarks result = [] ∨ ∃ name text,
      Run.failureMarks result = [("exception.type", .text name), ("exception.message", .text text)] := by
  cases result with
  | ok a => exact .inl rfl
  | error failure =>
    obtain ⟨text, told⟩ := recorded.exists_text
    exact .inr ⟨_, text, Run.failureMarks_of_text recorded.isInterrupt_eq_false told⟩

/-- The names that a comparison and its failure set are five at most, so none gives way. -/
theorem foldl_put_of_recorded {result : Except Failure Unit} {r : Log.Record}
    (recorded : Recorded result r) (override : Option String) (gitVersion : String) :
    (checkAttributes override gitVersion ++ Run.failureMarks result).foldl Span.put [] =
      checkAttributes override gitVersion ++ Run.failureMarks result := by
  obtain noMarks | ⟨name, text, both⟩ := failureMarks_of_recorded recorded
  · rw [noMarks]
    apply Span.foldl_put <;> simp [checkAttributes]
  · rw [both]
    apply Span.foldl_put <;> simp [checkAttributes]

theorem effects_traced (override : Option String) (gitVersion : String) :
    ∃ verdict span, (traced override.isSome gitVersion (override.getD "v1.18.0")).effects =
        [.record verdict, .span span] ∧
      Agree override gitVersion
        (compareVersions gitVersion (override.getD "v1.18.0") Config.variableName).outcome
        verdict span := by
  obtain ⟨r, recorded, effects⟩ :=
    recorded_compareVersions gitVersion (override.getD "v1.18.0") Config.variableName
  refine ⟨_, _, ?_, recorded.agree override gitVersion⟩
  have attributes := foldl_put_of_recorded recorded override gitVersion
  rw [traced, Run.mark, Run.mark, Run.perform_bind, Run.perform_bind, Run.withinSpan]
  simp only [effects]
  rw [← attributes]
  rfl

end Comparison

theorem Config.effects_resolve (config : Config) : config.resolve.effects =
    config.override?.toList.map fun text => .record
      { level := .debug, event := "version_check.override_used",
        fields := [("key", .text "KUBERNETES_MIN_VERSION"), ("min_version", .text text)] } := by
  cases override : config.override? with
  | none =>
    rw [resolve, isOverride, override]
    rfl
  | some text =>
    rw [resolve, isOverride, minimum, override]
    rfl

/-- The outcome, the records and the span of a check that got a version agree. Besides what its
versioner does, it opens with the override and the two versions as they were given, outside the
span; within the one span it makes one record, and both tell what the check ends with. -/
theorem check_reports_agree {versioner : Versioner} {info : ServerInfo}
    (answers : versioner.serverVersion.outcome = .ok info) (config : Option Config)
    (variableValue : Option String) :
    ∃ verdict span, (checkMinimumVersion versioner config variableValue).effects =
        .query :: versioner.serverVersion.effects ++
          (announcement (Config.overriding config variableValue) info.gitVersion).map .record ++
          [.record verdict, .span span] ∧
      Agree (Config.overriding config variableValue) info.gitVersion
        (checkMinimumVersion versioner config variableValue).outcome verdict span := by
  have asked : versioner.ask.outcome = .ok info := answers
  have override := Config.override?_effective config variableValue
  have minimum : (Config.effective config variableValue).minimum =
      (Config.overriding config variableValue).getD "v1.18.0" := by
    rw [Config.minimum, override]
    rfl
  have flag : (Config.effective config variableValue).isOverride =
      (Config.overriding config variableValue).isSome := by
    rw [Config.isOverride, override]
  obtain ⟨verdict, span, effects, agree⟩ :=
    Comparison.effects_traced (Config.overriding config variableValue) info.gitVersion
  refine ⟨verdict, span, ?_, ?_⟩
  · rw [checkMinimumVersion, Run.bind_of_ok asked, Run.bind_of_ok (Config.outcome_resolve _),
      Run.record, Run.perform_bind]
    have ask : versioner.ask.effects = .query :: versioner.serverVersion.effects := rfl
    simp [minimum, flag, effects, Config.effects_resolve, override, announcement, ask]
  · rwa [outcome_checkMinimumVersion asked, minimum]

/-- Neither text is a version, and the answer was recorded when it came: one record tells of the
version that was read first. -/
theorem check_reports_agree_malformed :
    let versioner := Versioner.ofEndpoint (.answers [("git_version", .text "latest")])
    versioner.serverVersion.outcome = .ok { gitVersion := "latest" } ∧
    ∃ verdict span, (checkMinimumVersion versioner none (some "v1.18")).effects =
        .query :: versioner.serverVersion.effects ++
          (announcement (some "v1.18") "latest").map .record ++ [.record verdict, .span span] ∧
      Agree (some "v1.18") "latest" (checkMinimumVersion versioner none (some "v1.18")).outcome
        verdict span ∧
      verdict.event = "version_check.parse_failed" ∧
      verdict.fields.get? "role" = some (.text "current") := by
  intro versioner
  have answers : versioner.serverVersion.outcome = .ok { gitVersion := "latest" } := rfl
  have read : Version.read "latest" = .error (.malformed "latest") := by decide +kernel
  have failed : (checkMinimumVersion versioner none (some "v1.18")).outcome = _ :=
    (outcome_checkMinimumVersion answers none (some "v1.18")).trans
      (Comparison.Verdict.malformedCurrent read).outcome
  obtain ⟨verdict, span, effects, agree⟩ := check_reports_agree answers none (some "v1.18")
  exact ⟨answers, verdict, span, effects, agree, agree.malformed_iff.mpr ⟨_, _, _, _, failed⟩,
    agree.role failed⟩

end VersionGate
